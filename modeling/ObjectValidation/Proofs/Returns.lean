/-!
Actions with a fixed result. In whatever monad it runs and whatever else it does there, such an action can be
replaced by its result in all that follows. Beside them stand actions of whose results, whatever they are, some
property is certain.
-/

namespace ObjectValidation

variable {m : Type → Type} [Monad m] {α β : Type}

/-- Whatever else an action does, it gives this result. -/
def Returns (act : m α) (a : α) : Prop := (do let _ ← act; return a) = act

theorem id_eq_of_returns {act : Id α} {a : α} (h : Returns act a) : act = a := Eq.symm h

variable [LawfulMonad m] {act : m α} {a : α}

theorem returns_pure (a : α) : Returns (pure a : m α) a := by simp [Returns]

theorem Returns.bind_eq (h : Returns act a) (next : α → m β) :
    act >>= next = (do let _ ← act; next a) := by
  conv => lhs; rw [← h]
  simp

theorem Returns.bind {next : α → m β} {b : β} (h : Returns act a) (hnext : Returns (next a) b) :
    Returns (act >>= next) b := by
  rw [h.bind_eq]
  unfold Returns at hnext ⊢
  rw [bind_assoc, hnext]

theorem Returns.map (h : Returns act a) (f : α → β) : Returns (f <$> act) (f a) := by
  rw [map_eq_pure_bind]
  exact h.bind (returns_pure (f a))

theorem Returns.lift {σ : Type} (h : Returns act a) :
    Returns (liftM act : StateT σ m α) a := by
  unfold Returns at h ⊢
  conv => rhs; rw [← h]
  simp

/-- Every result of the action has the property. -/
def Ensures (act : m α) (P : α → Prop) : Prop := ∃ act' : m {a // P a}, Subtype.val <$> act' = act

theorem ensures_true (act : m α) : Ensures act fun _ => True :=
  ⟨(fun a => ⟨a, trivial⟩) <$> act, by simp⟩

theorem ensures_pure {P : α → Prop} (ha : P a) : Ensures (pure a : m α) P :=
  ⟨pure ⟨a, ha⟩, by simp⟩

theorem Ensures.bind {P : α → Prop} {Q : β → Prop} {next : α → m β} (h : Ensures act P)
    (hnext : ∀ a, P a → Ensures (next a) Q) : Ensures (act >>= next) Q := by
  obtain ⟨act', hact⟩ := h
  refine ⟨act' >>= fun a => (hnext a.1 a.2).choose, ?_⟩
  rw [← hact, map_bind, bind_map_left]
  congr 1
  funext a
  exact (hnext a.1 a.2).choose_spec

/-- What follows an action only matters for results that it can have. -/
theorem Ensures.bind_congr {P : α → Prop} {next next' : α → m β} (h : Ensures act P)
    (hnext : ∀ a, P a → next a = next' a) : act >>= next = act >>= next' := by
  obtain ⟨act', rfl⟩ := h
  rw [bind_map_left, bind_map_left]
  congr 1
  funext a
  exact hnext a.1 a.2

theorem Ensures.of_id {act : Id α} {P : α → Prop} (h : Ensures act P) : P act := by
  obtain ⟨act', rfl⟩ := h
  exact act'.2

theorem Ensures.map {P : α → Prop} {Q : β → Prop} {f : α → β} (h : Ensures act P)
    (hf : ∀ a, P a → Q (f a)) : Ensures (f <$> act) Q := by
  rw [map_eq_pure_bind]
  exact h.bind fun a ha => ensures_pure (hf a ha)

/-- The result of an action with a fixed result, together with what is certain of the state it leaves. -/
theorem Returns.ensures_run {σ : Type} {act : StateT σ m α} {P : σ → Prop} {s : σ}
    (h : Returns act a) (hP : Ensures (StateT.run act s) fun outcome => P outcome.2) :
    Ensures (StateT.run act s) fun outcome => outcome.1 = a ∧ P outcome.2 := by
  have hrun : StateT.run act s = (fun outcome => (a, outcome.2)) <$> StateT.run act s := by
    conv => lhs; rw [← h]
    simp
  rw [hrun]
  exact hP.map fun outcome hlast => ⟨rfl, hlast⟩

end ObjectValidation
