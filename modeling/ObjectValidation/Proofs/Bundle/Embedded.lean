import ObjectValidation.Proofs.Bundle.FirstStep
import ObjectValidation.Proofs.Check.Catalogue
import ObjectValidation.Proofs.Json.Text
import ObjectValidation.Proofs.Template.Substitution
import Mathlib.Data.List.Nodup

/-!
The embedded bundles are complete for the catalogue. Each can be read and has a template for every constraint, and
wherever a template opens a brace it names a parameter that the constraint has. The root bundle is one of them, so a
request for the default base is always answered, and all tables of the answer are embedded ones.
-/

namespace ObjectValidation

namespace Template

/-- Whether every opening brace begins a placeholder of one of these names. -/
def opensOnly (names : List String) : List Char → Bool
  | [] => true
  | c :: rest =>
    (c != '\x7b' || names.any fun name => (braced name.toList).isPrefixOf (c :: rest)) &&
      opensOnly names rest

theorem prefix_of_opensOnly {names : List String} {s : List Char} (h : opensOnly names s = true) {i : Nat}
    (hi : s[i]? = some '\x7b') : ∃ name ∈ names, braced name.toList <+: s.drop i := by
  induction s generalizing i with
  | nil => cases hi
  | cons c rest ih =>
    rw [opensOnly, Bool.and_eq_true] at h
    cases i with
    | zero =>
      have hc : c = '\x7b' := by simpa using hi
      simpa [hc] using h.1
    | succ i => exact ih h.2 hi

end Template

namespace Check

theorem messageKey_injective : Function.Injective fun shortName => (builtIn shortName).messageKey := by
  intro a b h
  have hlists := congrArg String.toList h
  exact String.toList_inj.1 (by simpa [builtIn, Constraint.named] using hlists)

theorem nodup_messageKeys : (parameterNames.map fun entry => (builtIn entry.1).messageKey).Nodup := by
  have hshort : (parameterNames.map Prod.fst).Nodup := by decide
  have hkeys := hshort.map messageKey_injective
  rwa [List.map_map] at hkeys

theorem builtInNames_eq : builtInNames = parameterNames.map fun entry => (builtIn entry.1).name := rfl

end Check

namespace EmbeddedBundles

open Check Json Template

/-- The table has a template for each constraint of the catalogue, which names parameters of the constraint only. -/
def Complete (table : Messages) : Prop :=
  ∀ entry ∈ parameterNames, ∃ template,
    table.get? (builtIn entry.1).messageKey = some template ∧ opensOnly entry.2 template.toList = true

/-- The message key of a short name, as characters. -/
def keyChars (shortName : List Char) : List Char :=
  ['v', 'i', 'g', 'i', 'l', '.', 'c', 'o', 'n', 's', 't', 'r', 'a', 'i', 'n', 't', 's', '.'] ++ shortName ++
    ['.', 'm', 'e', 's', 's', 'a', 'g', 'e']

theorem ofList_keyChars (shortName : String) :
    String.ofList (keyChars shortName.toList) = (builtIn shortName).messageKey := by
  rw [keyChars, String.ofList_append, String.ofList_append, String.ofList_toList]
  rfl

/-- Whether these are the entries of such a table, in the order of the catalogue. -/
def covers : List (String × List String) → List (List Char × List Char) → Bool
  | [], [] => true
  | entry :: others, found :: rest =>
    found.1 == keyChars entry.1.toList && opensOnly entry.2 found.2 && covers others rest
  | _, _ => false

/-- The entries of an object of texts, as characters. -/
def entries? (text : List Char) : Option (List (List Char × List Char)) :=
  (Reader.many '\x7b' '\x7d' Reader.member text).bind fun found =>
    if Reader.skipBlanks found.2 = [] then some found.1 else none

theorem parse_ofList (name : String) (text : List Char) :
    Messages.parse name (String.ofList text) =
      match entries? text with
      | some entries => .ok (.ofList (entries.map (Prod.map String.ofList String.ofList)))
      | none => .error (.invalidBundle name) := by
  rw [Messages.parse, Reader.document, Reader.object_string, String.toList_ofList, entries?, Reader.mapped]
  cases Reader.many '\x7b' '\x7d' Reader.member text with
  | none => rfl
  | some found =>
    simp only [Option.map_some, Prod.map, id, Option.bind_some]
    by_cases hrest : Reader.skipBlanks found.2 = []
    · rw [if_pos hrest, if_pos hrest]
    · rw [if_neg hrest, if_neg hrest]

theorem covers_keys {names : List (String × List String)} {entries : List (List Char × List Char)}
    (h : covers names entries = true) :
    (entries.map (Prod.map String.ofList String.ofList)).map Prod.fst =
      names.map fun entry => (builtIn entry.1).messageKey := by
  induction names, entries using covers.induct with
  | case1 => rfl
  | case2 entry others found rest ih =>
    rw [covers, Bool.and_eq_true, Bool.and_eq_true, beq_iff_eq] at h
    rw [List.map_cons, List.map_cons, List.map_cons, ih h.2, Prod.map, h.1.1, ofList_keyChars]
  | case3 names entries hnil hcons =>
    rw [covers] at h
    · cases h
    · exact hnil
    · exact hcons

theorem exists_mem_of_covers {names : List (String × List String)} {entries : List (List Char × List Char)}
    (h : covers names entries = true) {entry : String × List String} (hentry : entry ∈ names) :
    ∃ template, ((builtIn entry.1).messageKey, String.ofList template) ∈
        entries.map (Prod.map String.ofList String.ofList) ∧ opensOnly entry.2 template = true := by
  induction names, entries using covers.induct with
  | case1 => cases hentry
  | case2 first others found rest ih =>
    rw [covers, Bool.and_eq_true, Bool.and_eq_true, beq_iff_eq] at h
    rcases List.mem_cons.1 hentry with rfl | hentry
    · refine ⟨found.2, List.mem_cons.2 (.inl ?_), h.1.2⟩
      rw [Prod.map, h.1.1, ofList_keyChars]
    · obtain ⟨template, hmem, hopens⟩ := ih h.2 hentry
      exact ⟨template, List.mem_cons_of_mem _ hmem, hopens⟩
  | case3 names entries hnil hcons =>
    rw [covers] at h
    · cases h
    · exact hnil
    · exact hcons

/-- A text whose entries cover the catalogue is read as a complete table of these entries, under whatever name. -/
theorem parse_of_covers {text : List Char} {entries : List (List Char × List Char)}
    (hentries : entries? text = some entries) (hcovers : covers parameterNames entries = true) (name : String) :
    ∃ table, Messages.parse name (String.ofList text) = .ok table ∧ Complete table ∧
      ∀ e ∈ entries, table.get? (String.ofList e.1) = some (String.ofList e.2) := by
  have hnodup := nodup_messageKeys
  rw [← covers_keys hcovers] at hnodup
  refine ⟨_, by rw [parse_ofList, hentries], fun entry hentry => ?_, fun e he => ?_⟩
  · obtain ⟨template, hmem, hopens⟩ := exists_mem_of_covers hcovers hentry
    exact ⟨_, Table.get?_ofList_of_mem hnodup hmem, by rwa [String.toList_ofList]⟩
  · exact Table.get?_ofList_of_mem hnodup (List.mem_map_of_mem he)

/-- The entries of the text pass a check. -/
def Passes (text : String) (check : List (List Char × List Char) → Bool) : Prop :=
  ∃ chars, text = String.ofList chars ∧ (entries? chars).any check = true

-- The characters come from the literals as they stand; decoding the texts would take far longer.
set_option maxRecDepth 9000 in
theorem covers_english : Passes english (covers parameterNames) := ⟨_, rfl, by decide +kernel⟩

set_option maxRecDepth 9000 in
theorem covers_brazilian : Passes brazilian (covers parameterNames) := ⟨_, rfl, by decide +kernel⟩

set_option maxRecDepth 9000 in
theorem covers_german : Passes german (covers parameterNames) := ⟨_, rfl, by decide +kernel⟩

theorem load_complete {name : String} (h : name ∈ names) :
    ∃ table, load name = .ok (some table) ∧ Complete table := by
  have hparse {text : String} (hpasses : Passes text (covers parameterNames))
      (hload : load name = (Messages.parse name text).map some) :
      ∃ table, load name = .ok (some table) ∧ Complete table := by
    obtain ⟨chars, rfl, hchecked⟩ := hpasses
    obtain ⟨entries, hentries, hcovers⟩ := (Option.any_eq_true _ _).1 hchecked
    obtain ⟨table, htable, hcomplete, -⟩ := parse_of_covers hentries hcovers name
    exact ⟨table, by rw [hload, htable]; rfl, hcomplete⟩
  simp only [names, texts, List.map_cons, List.map_nil, List.mem_cons, List.not_mem_nil, or_false] at h
  rcases h with rfl | rfl | rfl | rfl
  · exact hparse covers_english rfl
  · exact hparse covers_english rfl
  · exact hparse covers_brazilian rfl
  · exact hparse covers_german rfl

theorem load_of_notMem {name : String} (h : name ∉ names) : load name = .ok none := by
  have hnone : (texts.find? fun text => text.1 == name) = none := by
    rw [List.find?_eq_none]
    intro text htext hname
    exact h (beq_iff_eq.1 hname ▸ List.mem_map_of_mem htext)
  rw [load, hnone]

/-- There are messages for all names of the catalogue. -/
theorem exists_message {name : String} (h : name ∈ names) :
    ∃ table, load name = .ok (some table) ∧
      ∀ constraint ∈ builtInNames, ∃ message, table.get? (constraint ++ Constraint.messageKeySuffix) = some message := by
  obtain ⟨table, htable, hcomplete⟩ := load_complete h
  refine ⟨table, htable, ?_⟩
  rw [builtInNames_eq, List.forall_mem_map]
  exact fun entry hentry => (hcomplete entry hentry).imp fun _ hfound => hfound.1

end EmbeddedBundles

section

variable {m : Type → Type} [Monad m]

/-- A bundle that answers has a table, and all its tables come from the sources. -/
theorem chain_of_firstPlace {q : BundleRequest} {sources : List (FixedSource m)} {b : MessageBundle}
    (h : q.firstPlace sources = .ok b) :
    b.chain ≠ [] ∧ ∀ table ∈ b.chain, ∃ name, firstTable sources name = some table := by
  unfold BundleRequest.firstPlace at h
  split at h
  · next usable c hfirst =>
    cases h
    have hfound := List.find?_some hfirst
    rw [Bool.and_eq_true, ← isSome_firstTable] at hfound
    obtain ⟨head, hhead⟩ := Option.isSome_iff_exists.1 hfound.2
    have hchain : Uncached.tables (firstTable sources) c = head :: c.locale.parents.filterMap fun locale =>
        firstTable sources (bundleName c.baseName locale) :=
      List.filterMap_cons_some hhead
    dsimp only
    refine ⟨by rw [hchain]; exact List.cons_ne_nil _ _, fun table htable => ?_⟩
    obtain ⟨locale, -, hlocale⟩ := List.mem_filterMap.1 htable
    exact ⟨_, hlocale⟩
  · cases h

/-- What holds of a template in every table holds of the one that the bundle gives. -/
theorem MessageBundle.exists_get? {b : MessageBundle} {key : String} {P : String → Prop} (hne : b.chain ≠ [])
    (h : ∀ table ∈ b.chain, ∃ template, table.get? key = some template ∧ P template) :
    ∃ template, b.get? key = some template ∧ P template := by
  obtain ⟨head, rest, hchain⟩ := List.exists_cons_of_ne_nil hne
  obtain ⟨template, htemplate, hP⟩ := h head (by rw [hchain]; exact List.mem_cons_self)
  exact ⟨template, by rw [get?, hchain, List.findSome?_cons, htemplate], hP⟩

variable [LawfulMonad m]

def FixedSource.embedded : FixedSource m where
  load := EmbeddedBundles.source
  answer := EmbeddedBundles.load
  returns _ := returns_pure _

theorem errorFree_embedded : ErrorFree [FixedSource.embedded (m := m)] := by
  intro source hsource name e hfails
  rw [List.mem_singleton.1 hsource] at hfails
  have hload : EmbeddedBundles.load name = .error e := hfails
  by_cases hname : name ∈ EmbeddedBundles.names
  · obtain ⟨table, htable, -⟩ := EmbeddedBundles.load_complete hname
    rw [hload] at htable
    cases htable
  · rw [EmbeddedBundles.load_of_notMem hname] at hload
    cases hload

/-- The embedded bundles are the files that there are. -/
theorem firstTable_embedded_iff {name : String} {table : Messages} :
    firstTable [FixedSource.embedded (m := m)] name = some table ↔
      EmbeddedBundles.load name = .ok (some table) := by
  have hfirst : firstTable [FixedSource.embedded (m := m)] name = FixedSource.table? (m := m) .embedded name := by
    rw [firstTable, List.findSome?_cons]
    cases FixedSource.table? (m := m) .embedded name <;> rfl
  have hanswer : FixedSource.answer (m := m) .embedded name = EmbeddedBundles.load name := rfl
  rw [hfirst, FixedSource.table?, hanswer]
  cases EmbeddedBundles.load name with
  | error e => simp only [reduceCtorEq]
  | ok found => simp only [Except.ok.injEq]

end

end ObjectValidation
