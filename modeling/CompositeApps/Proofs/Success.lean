/-!
When a computation that can fail succeeds: a chain of steps does so if each of them does. If it
fails, then one step does, and those before it succeed.
-/

namespace CompositeApps

variable {ε α β : Type}

theorem bind_eq_ok {x : Except ε α} {f : α → Except ε β} {b : β} :
    x >>= f = .ok b ↔ ∃ a, x = .ok a ∧ f a = .ok b := by
  cases x <;> simp [bind, Except.bind]

theorem map_eq_ok {x : Except ε α} {f : α → β} {b : β} :
    f <$> x = .ok b ↔ ∃ a, x = .ok a ∧ f a = b := by
  cases x <;> simp [Functor.map, Except.map]

theorem mapError_eq_ok {ε' : Type} {x : Except ε α} {f : ε → ε'} {a : α} :
    x.mapError f = .ok a ↔ x = .ok a := by
  constructor
  · intro h
    cases x with
    | error e => cases h
    | ok b =>
      cases h
      rfl
  · rintro rfl
    rfl

theorem bind_eq_error {x : Except ε α} {f : α → Except ε β} {e : ε} :
    x >>= f = .error e ↔ x = .error e ∨ ∃ a, x = .ok a ∧ f a = .error e := by
  cases x <;> simp [bind, Except.bind]

theorem map_eq_error {x : Except ε α} {f : α → β} {e : ε} :
    f <$> x = .error e ↔ x = .error e := by
  cases x <;> simp [Functor.map, Except.map]

theorem foldlM_eq_error {step : β → α → Except ε β} {items : List α} {b : β} {e : ε} :
    items.foldlM step b = .error e ↔ ∃ before a after mid, items = before ++ a :: after ∧
      before.foldlM step b = .ok mid ∧ step mid a = .error e := by
  induction items generalizing b with
  | nil => simp [pure, Except.pure]
  | cons first rest ih =>
    rw [List.foldlM_cons, bind_eq_error]
    constructor
    · rintro (hfirst | ⟨next, hnext, hrest⟩)
      · exact ⟨[], first, rest, b, rfl, rfl, hfirst⟩
      · obtain ⟨before, a, after, mid, rfl, hbefore, ha⟩ := ih.1 hrest
        refine ⟨first :: before, a, after, mid, rfl, ?_, ha⟩
        rw [List.foldlM_cons, bind_eq_ok]
        exact ⟨next, hnext, hbefore⟩
    · rintro ⟨before, a, after, mid, hsplit, hbefore, ha⟩
      cases before with
      | nil =>
        obtain ⟨rfl, rfl⟩ := List.cons.inj hsplit
        obtain rfl := Except.ok.inj hbefore
        exact .inl ha
      | cons _ before =>
        obtain ⟨rfl, rfl⟩ := List.cons.inj hsplit
        rw [List.foldlM_cons, bind_eq_ok] at hbefore
        obtain ⟨next, hnext, hbefore⟩ := hbefore
        exact .inr ⟨next, hnext, ih.2 ⟨before, a, after, mid, rfl, hbefore, ha⟩⟩

theorem exists_ok_bind {x : Except ε α} {f : α → Except ε β} (hx : ∃ a, x = .ok a)
    (hf : ∀ a, ∃ b, f a = .ok b) : ∃ b, x >>= f = .ok b := by
  obtain ⟨a, rfl⟩ := hx
  exact hf a

/-! ### Chains that can also abort -/

section Aborting

variable {δ : Type} {x : ExceptT ε (Except δ) α} {f : α → ExceptT ε (Except δ) β}

theorem run_bind_eq_ok {b : β} : (x >>= f).run = .ok (.ok b) ↔
    ∃ a, x.run = .ok (.ok a) ∧ (f a).run = .ok (.ok b) := by
  rw [ExceptT.run_bind, bind_eq_ok]
  constructor
  · rintro ⟨_ | a, hx, h⟩
    · cases h
    · exact ⟨a, hx, h⟩
  · rintro ⟨a, hx, h⟩
    exact ⟨.ok a, hx, h⟩

theorem run_bind_eq_error {cause : δ} : (x >>= f).run = .error cause ↔
    x.run = .error cause ∨ ∃ a, x.run = .ok (.ok a) ∧ (f a).run = .error cause := by
  rw [ExceptT.run_bind, bind_eq_error]
  refine or_congr_right ⟨?_, ?_⟩
  · rintro ⟨_ | a, hx, h⟩
    · cases h
    · exact ⟨a, hx, h⟩
  · rintro ⟨a, hx, h⟩
    exact ⟨.ok a, hx, h⟩

end Aborting

end CompositeApps
