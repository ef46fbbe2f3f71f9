import ObjectValidation.Proofs.Format.Asking
import ObjectValidation.Proofs.Template.Substitution

/-!
Rendering a template is simultaneous substitution: the text is read once from left to right, and what comes
out is what the positions of the template stand for. So nothing that a parameter brings in is looked at
again, and parameters whose names do not occur do not matter. Rendering ends exactly if the writing of all
values does that the template names.
-/

namespace ObjectValidation.Template

/-- What a piece becomes when the texts of values are known. -/
def Piece.filled (params : Table Value) (text : Value → String) (p : Piece) : List Char :=
  match p.value? params with
  | some v => (text v).toList
  | none => p.source

theorem gives_renderPieces (params : Table Value) (locale : Locale) (r : FormatterRegistry)
    (pieces : List Piece) :
    r.Gives (renderPieces params locale pieces)
      (pieces.flatMap (Piece.filled params (r.text locale))) := by
  induction pieces with
  | nil => exact FormatterRegistry.gives_pure []
  | cons p rest ih =>
    rw [List.flatMap_cons, renderPieces, Piece.filled]
    cases p.value? params with
    | none => exact (FormatterRegistry.gives_pure _).bind (ih.bind (FormatterRegistry.gives_pure _))
    | some v =>
      exact (r.gives_format locale v).bind <| (FormatterRegistry.gives_pure _).bind <|
        ih.bind (FormatterRegistry.gives_pure _)

/-- What comes of the pieces, and the registry after them, when every value is written by its formatter. -/
inductive Composed (params : Table Value) (locale : Locale) :
    FormatterRegistry → List Piece → List Char → FormatterRegistry → Prop
  | nil {r : FormatterRegistry} : Composed params locale r [] [] r
  | source {r last : FormatterRegistry} {p : Piece} {rest : List Piece} {chars : List Char}
      (stays : p.value? params = none) (others : Composed params locale r rest chars last) :
      Composed params locale r (p :: rest) (p.source ++ chars) last
  | value {r middle last : FormatterRegistry} {p : Piece} {rest : List Piece} {v : Value} {text : String}
      {chars : List Char} (stands : p.value? params = some v) (written : r.Writes locale v text middle)
      (others : Composed params locale middle rest chars last) :
      Composed params locale r (p :: rest) (text.toList ++ chars) last

/-- What is composed with one registry is composed with every other one that has the same formatters. -/
theorem Composed.congr {params : Table Value} {locale : Locale} {r s last : FormatterRegistry}
    {pieces : List Piece} {chars : List Char} (h : Composed params locale r pieces chars last)
    (hsame : s.formatterOf = r.formatterOf) : ∃ s', Composed params locale s pieces chars s' := by
  induction h generalizing s with
  | nil => exact ⟨s, .nil⟩
  | source stays _ ih =>
    obtain ⟨s', hothers⟩ := ih hsame
    exact ⟨s', .source stays hothers⟩
  | value stands written _ ih =>
    obtain ⟨middle, hwritten⟩ := written.congr hsame
    have hmiddle := hwritten.formatterOf_eq.trans (hsame.trans written.formatterOf_eq.symm)
    obtain ⟨s', hothers⟩ := ih hmiddle
    exact ⟨s', .value stands hwritten hothers⟩

theorem Composed.run_eq {params : Table Value} {locale : Locale} {r last : FormatterRegistry}
    {pieces : List Piece} {chars : List Char} (h : Composed params locale r pieces chars last) :
    StateT.run (renderPieces params locale pieces) r = (chars, last) := by
  induction h with
  | nil => rfl
  | @source r last p rest chars stays _ ih =>
    rw [renderPieces, stays]
    show StateT.run (renderPieces params locale rest >>= fun tail => pure (p.source ++ tail)) r = _
    rw [StateT.run_bind, ih]
    rfl
  | @value r middle last p rest v text chars stands written _ ih =>
    rw [renderPieces, stands, StateT.run_bind, written.run_eq]
    show StateT.run (renderPieces params locale rest >>= fun tail => pure (text.toList ++ tail)) middle = _
    rw [StateT.run_bind, ih]
    rfl

/-- Composing comes to an end exactly if the writing of all values does that the pieces stand for. -/
theorem exists_composed_iff {params : Table Value} {locale : Locale} {r s : FormatterRegistry}
    (hsame : s.formatterOf = r.formatterOf) {pieces : List Piece} :
    (∃ chars last, Composed params locale s pieces chars last) ↔
      ∀ p ∈ pieces, ∀ v, p.value? params = some v → r.Finishes locale v := by
  induction pieces generalizing s with
  | nil => exact ⟨fun _ p hp => absurd hp List.not_mem_nil, fun _ => ⟨[], s, .nil⟩⟩
  | cons p rest ih =>
    rw [List.forall_mem_cons]
    constructor
    · rintro ⟨_, last, hcomposed⟩
      cases hcomposed with
      | source stays others =>
        refine ⟨fun v hv => ?_, (ih hsame).1 ⟨_, last, others⟩⟩
        rw [stays] at hv
        cases hv
      | value stands written others =>
        refine ⟨fun v hv => ?_, (ih (written.formatterOf_eq.trans hsame)).1 ⟨_, last, others⟩⟩
        obtain rfl := Option.some.inj (stands.symm.trans hv)
        exact FormatterRegistry.Finishes.congr ⟨_, _, written⟩ hsame.symm
    · rintro ⟨hp, hrest⟩
      cases hvalue : p.value? params with
      | none =>
        obtain ⟨chars, last, others⟩ := (ih hsame).2 hrest
        exact ⟨_, last, .source hvalue others⟩
      | some v =>
        obtain ⟨text, middle, hwrites⟩ := (hp v hvalue).congr hsame
        obtain ⟨chars, last, others⟩ := (ih (hwrites.formatterOf_eq.trans hsame)).2 hrest
        exact ⟨_, last, .value hvalue hwrites others⟩

theorem name?_name {name : List Char} (hname : ∀ c ∈ name, isBrace c = false) (after : List Char) :
    name? (name ++ '\x7d' :: after) = some (name, after) := by
  rw [name?, takeWhile_name hname (by decide)]
  simp

theorem name?_eq_some {s name after : List Char} (h : name? s = some (name, after)) :
    (∀ c ∈ name, isBrace c = false) ∧ s = name ++ '\x7d' :: after := by
  simp only [name?] at h
  split at h
  · next rest hrest =>
    cases h
    refine ⟨fun c hc => isBrace_of_mem_takeWhile hc, ?_⟩
    have hprefix := List.prefix_iff_eq_append.1 (List.takeWhile_prefix (l := s) fun c => !isBrace c)
    rw [hrest] at hprefix
    exact hprefix.symm
  · cases h

variable {params : Table Value} {text : Value → String}

/-- The text that replaces a name. -/
def textOf? (params : Table Value) (text : Value → String) (name : String) : Option String :=
  (params.get? name).map text

theorem filled_placeholder {name : List Char} (hname : ∀ c ∈ name, isBrace c = false) :
    (Piece.placeholder name).filled params text = substitute (textOf? params text) (braced name) := by
  rw [Piece.filled, Piece.value?]
  by_cases hne : name = []
  · rw [substitute_braced_of_none hname (.inl hne), hne]
    rfl
  · rw [if_neg (by simpa using hne)]
    cases hvalue : params.get? (String.ofList name) with
    | none =>
      have htext : textOf? params text (String.ofList name) = none := by rw [textOf?, hvalue]; rfl
      rw [substitute_braced_of_none hname (.inr htext)]
      rfl
    | some v =>
      have htext : textOf? params text (String.ofList name) = some (text v) := by
        rw [textOf?, hvalue]
        rfl
      rw [substitute_braced_of_some hname hne htext]

/-- A character that opens no placeholder is text. -/
theorem nameAt?_cons_zero {c : Char} {rest : List Char} (h : c = '\x7b' → name? rest = none) :
    nameAt? (c :: rest) 0 = none := by
  cases hname : nameAt? (c :: rest) 0 with
  | none => rfl
  | some name =>
    have hopen := getElem?_of_nameAt? hname
    obtain ⟨-, hbraces, after, hstands⟩ := nameAt?_eq_some_iff.1 hname
    have hc : c = '\x7b' := by simpa using hopen
    have hrest : rest = name ++ '\x7d' :: after := by simpa [braced] using (congrArg List.tail hstands).symm
    rw [hrest, name?_name hbraces] at h
    cases h hc

theorem substitute_text {c : Char} {rest : List Char} (h : c = '\x7b' → name? rest = none)
    (text? : String → Option String) :
    substitute text? (c :: rest) = c :: substitute text? rest := by
  have hapart : Apart text? [c] rest := by
    intro i name text hi hfound
    obtain rfl : i = 0 := by simpa using hi
    have hname : nameAt? (c :: rest) 0 = some name := (replacedAt?_eq_some_iff.1 hfound).1
    rw [nameAt?_cons_zero h] at hname
    cases hname
  have happend := hapart.substitute_append
  rwa [substitute_singleton] at happend

/-- Reading a template piece by piece gives what its positions stand for. -/
theorem flatMap_parse (s : List Char) :
    (parse s).flatMap (Piece.filled params text) = substitute (textOf? params text) s := by
  induction s using parse.induct with
  | case1 => rw [parse]; rfl
  | case2 rest name after h ih =>
    obtain ⟨hname, hrest⟩ := name?_eq_some h
    have hwhole : '\x7b' :: rest = braced name ++ after := by rw [hrest]; simp [braced]
    rw [parse, if_pos rfl, h]
    rw [List.flatMap_cons, ih, filled_placeholder hname, hwhole, (apart_braced hname after).substitute_append]
  | case3 rest h ih =>
    rw [parse, if_pos rfl, h]
    rw [List.flatMap_cons, ih, substitute_text fun _ => h]
    rfl
  | case4 c rest h ih =>
    rw [parse, if_neg h, List.flatMap_cons, ih, substitute_text fun hc => absurd hc h]
    rfl

theorem exists_nameAt?_cons {c : Char} {rest name : List Char} (h : c = '\x7b' → name? rest = none) :
    (∃ i, nameAt? (c :: rest) i = some name) ↔ ∃ i, nameAt? rest i = some name := by
  constructor
  · rintro ⟨i, hi⟩
    cases i with
    | zero =>
      rw [nameAt?_cons_zero h] at hi
      cases hi
    | succ i => exact ⟨i, hi⟩
  · rintro ⟨i, hi⟩
    exact ⟨i + 1, hi⟩

/-- A placeholder with a name is read exactly if it stands somewhere in the template. -/
theorem placeholder_mem_parse_iff {name : List Char} (hne : name ≠ []) (s : List Char) :
    .placeholder name ∈ parse s ↔ ∃ i, nameAt? s i = some name := by
  induction s using parse.induct with
  | case1 =>
    rw [parse]
    refine iff_of_false List.not_mem_nil ?_
    rintro ⟨i, hi⟩
    cases getElem?_of_nameAt? hi
  | case2 rest found after h ih =>
    obtain ⟨hfound, hrest⟩ := name?_eq_some h
    have hwhole : '\x7b' :: rest = braced found ++ after := by rw [hrest]; simp [braced]
    rw [parse, if_pos rfl, h, hwhole, exists_nameAt?_braced_append hfound, ← ih, List.mem_cons, Piece.placeholder.injEq]
    exact or_congr_left ⟨fun heq => ⟨heq.symm, hne⟩, fun heq => heq.1.symm⟩
  | case3 rest h ih =>
    rw [parse, if_pos rfl, h, exists_nameAt?_cons (fun _ => h), ← ih]
    simp
  | case4 c rest hc ih =>
    rw [parse, if_neg hc, exists_nameAt?_cons (fun h => absurd h hc), ← ih]
    simp

/-- The template names the value as a parameter. -/
def Names (params : Table Value) (template : String) (v : Value) : Prop :=
  ∃ i name, nameAt? template.toList i = some name ∧ params.get? (String.ofList name) = some v

theorem names_iff {params : Table Value} {template : String} {v : Value} :
    Names params template v ↔ ∃ p ∈ parse template.toList, p.value? params = some v := by
  constructor
  · rintro ⟨i, name, hname, hvalue⟩
    have hne := (nameAt?_eq_some_iff.1 hname).1
    refine ⟨.placeholder name, (placeholder_mem_parse_iff hne _).2 ⟨i, hname⟩, ?_⟩
    rw [Piece.value?, if_neg (by simpa using hne), hvalue]
  · rintro ⟨p, hp, hvalue⟩
    cases p with
    | text c => cases hvalue
    | placeholder name =>
      rw [Piece.value?] at hvalue
      split at hvalue
      · cases hvalue
      · next hne =>
        obtain ⟨i, hi⟩ := (placeholder_mem_parse_iff (by simpa using hne) _).1 hp
        exact ⟨i, name, hi, hvalue⟩

theorem Composed.run_eq_render {params : Table Value} {locale : Locale} {r last : FormatterRegistry}
    {template : String} {chars : List Char}
    (h : Composed params locale r (parse template.toList) chars last) :
    StateT.run (render template params locale) r = (String.ofList chars, last) := by
  rw [render, StateT.run_bind, h.run_eq]
  rfl

/-- The text of a template in which the parameters are filled in. -/
def filled (r : FormatterRegistry) (locale : Locale) (params : Table Value) (template : String) : String :=
  (StateT.run (render template params locale) r).1

theorem gives_render (r : FormatterRegistry) (locale : Locale) (params : Table Value) (template : String) :
    r.Gives (render template params locale)
      (String.ofList (substitute (textOf? params (r.text locale)) template.toList)) := by
  have hpieces := gives_renderPieces params locale r (parse template.toList)
  rw [flatMap_parse] at hpieces
  exact hpieces.bind (FormatterRegistry.gives_pure _)

theorem filled_eq (r : FormatterRegistry) (locale : Locale) (params : Table Value) (template : String) :
    filled r locale params template =
      String.ofList (substitute (textOf? params (r.text locale)) template.toList) :=
  (gives_render r locale params template).fst_eq

theorem Composed.filled_eq {params : Table Value} {locale : Locale} {r last : FormatterRegistry} {template : String}
    {chars : List Char} (h : Composed params locale r (parse template.toList) chars last) :
    filled r locale params template = String.ofList chars := congrArg Prod.fst h.run_eq_render

theorem exists_composed_iff_names {params : Table Value} {locale : Locale} {r : FormatterRegistry}
    {template : String} :
    (∃ chars last, Composed params locale r (parse template.toList) chars last) ↔
      ∀ v, Names params template v → r.Finishes locale v := by
  rw [exists_composed_iff rfl]
  constructor
  · intro h v hv
    obtain ⟨p, hp, hvalue⟩ := names_iff.1 hv
    exact h p hp v hvalue
  · exact fun h p hp v hvalue => h v (names_iff.2 ⟨p, hp, hvalue⟩)

/-- Filling in a template is simultaneous substitution. The text of a parameter is copied as it is, whatever
it contains; without parameters nothing changes; and only the values count that the placeholders name. It ends
exactly if all of these can be written, whatever values their formatters ask for, and then this is what comes out. -/
theorem filled_substitutes (r : FormatterRegistry) (locale : Locale) (params : Table Value)
    (template : String) :
    filled r locale params template =
        String.ofList (substitute (textOf? params (r.text locale)) template.toList) ∧
      (∀ (before after : String) (name : List Char) (v : Value), name ≠ [] →
        (∀ c ∈ name, isBrace c = false) → params.get? (String.ofList name) = some v →
        filled r locale params (before ++ String.ofList (braced name) ++ after) =
          filled r locale params before ++ r.text locale v ++ filled r locale params after) ∧
      filled r locale .empty template = template ∧
      (∀ others : Table Value,
        (∀ i name, nameAt? template.toList i = some name →
          others.get? (String.ofList name) = params.get? (String.ofList name)) →
        filled r locale others template = filled r locale params template) ∧
      ((∃ chars last, Composed params locale r (parse template.toList) chars last) ↔
        ∀ v, Names params template v → ∃ r', r.Writes locale v (r.text locale v) r') ∧
      ∀ chars last, Composed params locale r (parse template.toList) chars last →
        StateT.run (render template params locale) r = (String.ofList chars, last) ∧
          String.ofList chars = filled r locale params template := by
  refine ⟨filled_eq r locale params template, ?_, ?_, ?_, ?_, ?_⟩
  · intro before after name v hne hname hvalue
    have htext : textOf? params (r.text locale) (String.ofList name) = some (r.text locale v) := by
      rw [textOf?, hvalue]
      rfl
    apply String.toList_inj.1
    simp only [filled_eq, String.toList_append, String.toList_ofList, List.append_assoc]
    rw [substitute_around hname, substitute_braced_of_some hname hne htext]
  · have hnone : ∀ name, textOf? .empty (r.text locale) name = none := fun _ => rfl
    rw [filled_eq, substitute_of_forall_none hnone, String.ofList_toList]
  · intro others hothers
    have hsame : substitute (textOf? others (r.text locale)) template.toList =
        substitute (textOf? params (r.text locale)) template.toList :=
      substitute_congr fun i name hname => by rw [textOf?, textOf?, hothers i name hname]
    rw [filled_eq, filled_eq, hsame]
  · rw [exists_composed_iff_names]
    exact forall₂_congr fun v _ => ⟨fun h => h.exists_writes, fun h => ⟨_, h⟩⟩
  · exact fun chars last hcomposed => ⟨hcomposed.run_eq_render, hcomposed.filled_eq.symm⟩

end ObjectValidation.Template
