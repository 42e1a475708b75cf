/-!
# Computations that may fail

When a chain of steps succeeds that may fail, and how the parser and the
evaluator run, which both go along a state that remains when they fail.
-/

namespace RuleEngine

variable {ε σ α β : Type}

theorem eq_ok_iff_of_eq {x : Except ε α} {a b : α} (h : x = .ok a) : x = .ok b ↔ a = b := by
  rw [h, Except.ok.injEq]

theorem bind_eq_ok_iff {x : Except ε α} {f : α → Except ε β} {b : β} :
    x >>= f = .ok b ↔ ∃ a, x = .ok a ∧ f a = .ok b := by
  cases x with
  | error e => exact ⟨nofun, nofun⟩
  | ok a => exact ⟨fun h => ⟨a, rfl, h⟩, fun ⟨_, ha, h⟩ => Except.ok.inj ha ▸ h⟩

theorem bind_eq_error_iff {x : Except ε α} {f : α → Except ε β} {e : ε} :
    x >>= f = .error e ↔ x = .error e ∨ ∃ a, x = .ok a ∧ f a = .error e := by
  cases x with
  | error e' =>
    have hbind : (.error e' : Except ε α) >>= f = .error e' := rfl
    rw [hbind, Except.error.injEq, Except.error.injEq]
    exact ⟨.inl, fun h => h.elim id nofun⟩
  | ok a => exact ⟨fun h => .inr ⟨a, rfl, h⟩, fun h => h.elim nofun fun ⟨_, ha, h⟩ =>
      Except.ok.inj ha ▸ h⟩

/-- What a chain of steps fails with, if it fails. -/
def failure? (x : Except ε α) : Option ε :=
  match x with
  | .error e => some e
  | .ok _ => none

theorem failure?_eq_some_iff {x : Except ε α} {e : ε} : failure? x = some e ↔ x = .error e := by
  cases x with
  | error e' => rw [failure?, Option.some.injEq, Except.error.injEq]
  | ok a => exact ⟨nofun, nofun⟩

theorem failure?_eq_none_iff {x : Except ε α} : failure? x = none ↔ ∃ a, x = .ok a := by
  cases x with
  | error e => exact ⟨nofun, nofun⟩
  | ok a => exact ⟨fun _ => ⟨a, rfl⟩, fun _ => rfl⟩

theorem failure?_bind {x : Except ε α} {f : α → Except ε β} {rest : Option ε}
    (h : ∀ a, failure? (f a) = rest) : failure? (x >>= f) = (failure? x).or rest := by
  cases x with
  | error e => rfl
  | ok a => exact h a

/-- A step that does not fail leaves the failure to those before it. -/
theorem failure?_bind_of_ok {x : Except ε α} {f : α → Except ε β}
    (h : ∀ a, failure? (f a) = none) : failure? (x >>= f) = failure? x :=
  (failure?_bind h).trans Option.or_none

theorem toOption_eq_some_iff {x : Except ε α} {a : α} : x.toOption = some a ↔ x = .ok a := by
  cases x with
  | error e => exact ⟨nofun, nofun⟩
  | ok b => rw [Except.toOption, Option.some.injEq, Except.ok.injEq]

@[simp] theorem run_pure (a : α) (s : σ) :
    (pure a : ExceptT ε (StateM σ) α).run s = (.ok a, s) := rfl

@[simp] theorem run_get (s : σ) : (get : ExceptT ε (StateM σ) σ).run s = (.ok s, s) := rfl

@[simp] theorem run_modify (f : σ → σ) (s : σ) :
    (modify f : ExceptT ε (StateM σ) Unit).run s = (.ok (), f s) := rfl

theorem run_bind (m : ExceptT ε (StateM σ) α) (f : α → ExceptT ε (StateM σ) β) (s : σ) :
    (m >>= f).run s =
      match m.run s with
      | (.ok a, s') => (f a).run s'
      | (.error e, s') => (.error e, s') := by
  simp only [ExceptT.run, bind, ExceptT.bind, ExceptT.mk, StateT.bind]
  rcases m s with ⟨_ | _, _⟩ <;> rfl

theorem run_bind_ok {m : ExceptT ε (StateM σ) α} {f : α → ExceptT ε (StateM σ) β} {a : α}
    {s s' : σ} (h : m.run s = (.ok a, s')) : (m >>= f).run s = (f a).run s' := by
  rw [run_bind, h]

theorem run_bind_pure (m : ExceptT ε (StateM σ) α) (f : α → β) (s : σ) :
    (m >>= fun a => pure (f a)).run s = ((m.run s).1.map f, (m.run s).2) := by
  rw [run_bind]
  rcases m.run s with ⟨_ | _, _⟩ <;> rfl

end RuleEngine
