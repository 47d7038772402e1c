import LoraConcentrator.Proofs.Program

/-!
# Two runs side by side

Whether some part of a state matters to a program is a question about two runs of it, from states
that differ in that part. Two outcomes agree when they are of the same kind, with the same value or
the same error, and their states are related again (`Agree`). Two programs run in lockstep when they
end in agreement from all related states (`Lockstep`).

Lockstep is kept by sequences, so as with what a single run keeps it is proved once for each step.
The one step that needs care is looking at the state: the two runs see different states, and what
follows must not use what they differ in (`Lockstep.get_bind`).
-/

namespace LoraConcentrator.Program

variable {ε σ α β : Type} {R : σ → σ → Prop}

/-- Two outcomes with the same value or the same error, and with related states. -/
inductive Agree (R : σ → σ → Prop) : EStateM.Result ε σ α → EStateM.Result ε σ α → Prop
  | ok {a : α} {s t : σ} : R s t → Agree R (.ok a s) (.ok a t)
  | error {e : ε} {s t : σ} : R s t → Agree R (.error e s) (.error e t)

namespace Agree

variable {x y : EStateM.Result ε σ α}

/-- What two outcomes that agree are. -/
theorem ok_or_error (h : Agree R x y) :
    (∃ a s t, x = .ok a s ∧ y = .ok a t ∧ R s t) ∨
      ∃ e s t, x = .error e s ∧ y = .error e t ∧ R s t := by
  obtain ⟨hst⟩ | ⟨hst⟩ := h
  · exact .inl ⟨_, _, _, rfl, rfl, hst⟩
  · exact .inr ⟨_, _, _, rfl, rfl, hst⟩

/-- The other program ends with the same value. -/
theorem exists_of_ok {a : α} {s : σ} (h : Agree R x y) (hx : x = .ok a s) :
    ∃ t, y = .ok a t ∧ R s t := by
  subst hx
  obtain ⟨hst⟩ | _ := h
  exact ⟨_, rfl, hst⟩

/-- Programs that agree up to a relation agree up to a weaker one. -/
theorem mono {S : σ → σ → Prop} (h : Agree R x y) (hRS : ∀ s t, R s t → S s t) : Agree S x y := by
  obtain ⟨hst⟩ | ⟨hst⟩ := h
  · exact .ok (hRS _ _ hst)
  · exact .error (hRS _ _ hst)

/-- Agreement goes both ways where the relation does. -/
theorem symm [Std.Symm R] (h : Agree R x y) : Agree R y x := by
  obtain ⟨hst⟩ | ⟨hst⟩ := h
  · exact .ok (Std.Symm.symm _ _ hst)
  · exact .error (Std.Symm.symm _ _ hst)

/-- Agreement of two and agreement of two more is that of the outer ones. -/
theorem trans [IsTrans σ R] {z : EStateM.Result ε σ α} (h : Agree R x y) (h' : Agree R y z) :
    Agree R x z := by
  obtain ⟨hst⟩ | ⟨hst⟩ := h
  · obtain ⟨hst'⟩ := h'
    exact .ok (IsTrans.trans _ _ _ hst hst')
  · obtain _ | ⟨hst'⟩ := h'
    exact .error (IsTrans.trans _ _ _ hst hst')

end Agree

/-- From related states, two programs end in agreement. -/
def Lockstep (R : σ → σ → Prop) (x y : EStateM ε σ α) : Prop :=
  ∀ ⦃s t : σ⦄, R s t → Agree R (x s) (y t)

/-- Programs in lockstep go on from outcomes that agree. -/
theorem Agree.bind {x y : EStateM ε σ α} {f g : α → EStateM ε σ β} {s t : σ}
    (h : Agree R (x s) (y t)) (hfg : ∀ a, Lockstep R (f a) (g a)) :
    Agree R ((x >>= f) s) ((y >>= g) t) := by
  rcases h.ok_or_error with ⟨a, s', t', hx, hy, hst⟩ | ⟨e, s', t', hx, hy, hst⟩
  · rw [bind_of_ok hx, bind_of_ok hy]
    exact hfg a hst
  · rw [bind_of_error hx, bind_of_error hy]
    exact .error hst

/-- A function of the value keeps programs in agreement. -/
theorem Agree.map {x y : EStateM ε σ α} {s t : σ} (f : α → β) (h : Agree R (x s) (y t)) :
    Agree R ((f <$> x) s) ((f <$> y) t) := by
  rw [map_eq_bind, map_eq_bind]
  exact h.bind fun _ _ _ hst ↦ .ok hst

namespace Lockstep

theorem pure (a : α) : Lockstep R (pure a : EStateM ε σ α) (pure a) :=
  fun _ _ hst ↦ .ok hst

theorem throw (e : ε) : Lockstep R (throw e : EStateM ε σ α) (throw e) :=
  fun _ _ hst ↦ .error hst

/-- Nothing follows an error. -/
theorem throw_bind (e : ε) (f g : α → EStateM ε σ β) :
    Lockstep R (MonadExcept.throw e >>= f) (MonadExcept.throw e >>= g) :=
  fun _ _ hst ↦ .error hst

/-- A change of the state that keeps related states related. -/
theorem modify {f : σ → σ} (hf : ∀ ⦃s t : σ⦄, R s t → R (f s) (f t)) :
    Lockstep R (modify f : EStateM ε σ Unit) (modify f) :=
  fun _ _ hst ↦ .ok (hf hst)

/-- Sequences whose parts run in lockstep run in lockstep. -/
theorem bind {x y : EStateM ε σ α} {f g : α → EStateM ε σ β} (hxy : Lockstep R x y)
    (hfg : ∀ a, Lockstep R (f a) (g a)) : Lockstep R (x >>= f) (y >>= g) :=
  fun _ _ hst ↦ (hxy hst).bind hfg

/-- What follows a look at the state is compared for the two states that are seen. -/
theorem get_bind {f g : σ → EStateM ε σ β} (h : ∀ ⦃s t : σ⦄, R s t → Agree R (f s s) (g t t)) :
    Lockstep R (get >>= f) (get >>= g) :=
  h

theorem map {x y : EStateM ε σ α} (f : α → β) (hxy : Lockstep R x y) :
    Lockstep R (f <$> x) (f <$> y) :=
  fun _ _ hst ↦ (hxy hst).map f

theorem ite {c : Prop} [Decidable c] {x y x' y' : EStateM ε σ α} (hx : Lockstep R x x')
    (hy : Lockstep R y y') : Lockstep R (if c then x else y) (if c then x' else y') := by
  split
  · exact hx
  · exact hy

end Lockstep

end LoraConcentrator.Program
