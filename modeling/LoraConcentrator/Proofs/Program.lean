import Mathlib.Order.Defs.Unbundled

/-!
# Outcomes of programs

The programs of the library run over a state and end with a value or with an error; what they did to
the state stands in both cases. Two ways to reason about such a program follow. The first takes an
outcome apart: a sequence ends well when both of its parts do (`bind_eq_ok_iff`), and badly when one
of them does (`bind_eq_error_iff`).

The second is for what holds of a program whatever its outcome. `Keeps R excused program` says that
the states before and after `program` are related by `R`, unless it failed with an excused error. A
preorder that every step of a program keeps is kept by the program, so such a fact is proved once
for each step and never for a sequence. Where only errors of one kind matter, a program avoids them
(`Avoids`) or spares the state when it fails with one (`Spares`).
-/

namespace LoraConcentrator.Program

variable {ε σ α β : Type}

/-! ### Taking an outcome apart -/

/-- After a part that succeeded the rest runs on its value and state. -/
theorem bind_of_ok {x : EStateM ε σ α} {f : α → EStateM ε σ β} {s t : σ} {a : α}
    (h : x s = .ok a t) : (x >>= f) s = f a t := by
  show EStateM.bind x f s = _
  rw [EStateM.bind, h]

/-- After a part that failed nothing runs. -/
theorem bind_of_error {x : EStateM ε σ α} {f : α → EStateM ε σ β} {s t : σ} {e : ε}
    (h : x s = .error e t) : (x >>= f) s = .error e t := by
  show EStateM.bind x f s = _
  rw [EStateM.bind, h]

/-- A sequence ends well exactly when both of its parts do. -/
theorem bind_eq_ok_iff {x : EStateM ε σ α} {f : α → EStateM ε σ β} {s t : σ} {b : β} :
    (x >>= f) s = .ok b t ↔ ∃ a u, x s = .ok a u ∧ f a u = .ok b t := by
  rcases hx : x s with ⟨a, u⟩ | ⟨e, u⟩
  · rw [bind_of_ok hx]
    constructor
    · exact fun h ↦ ⟨a, u, rfl, h⟩
    · rintro ⟨_, _, h, hf⟩
      cases h
      exact hf
  · rw [bind_of_error hx]
    constructor
    · intro h
      cases h
    · rintro ⟨_, _, h, _⟩
      cases h

/-- A sequence ends badly exactly when its first part does, or the second after the first. -/
theorem bind_eq_error_iff {x : EStateM ε σ α} {f : α → EStateM ε σ β} {s t : σ} {e : ε} :
    (x >>= f) s = .error e t ↔
      x s = .error e t ∨ ∃ a u, x s = .ok a u ∧ f a u = .error e t := by
  rcases hx : x s with ⟨a, u⟩ | ⟨e', u⟩
  · rw [bind_of_ok hx]
    constructor
    · exact fun h ↦ .inr ⟨a, u, rfl, h⟩
    · rintro (h | ⟨_, _, h, hf⟩)
      · cases h
      · cases h
        exact hf
  · rw [bind_of_error hx]
    constructor
    · intro h
      cases h
      exact .inl rfl
    · rintro (h | ⟨_, _, h, _⟩)
      · cases h
        rfl
      · cases h

section Steps

variable {s t : σ} {a b : α} {e e' : ε}

theorem pure_eq_ok_iff : (pure a : EStateM ε σ α) s = .ok b t ↔ b = a ∧ t = s := by
  constructor
  · intro h
    cases h
    exact ⟨rfl, rfl⟩
  · rintro ⟨rfl, rfl⟩
    rfl

theorem pure_ne_error : (pure a : EStateM ε σ α) s = .error e t ↔ False := by
  constructor
  · intro h
    cases h
  · exact False.elim

theorem throw_ne_ok : (throw e : EStateM ε σ α) s = .ok b t ↔ False := by
  constructor
  · intro h
    cases h
  · exact False.elim

theorem throw_eq_error_iff : (throw e : EStateM ε σ α) s = .error e' t ↔ e' = e ∧ t = s := by
  constructor
  · intro h
    cases h
    exact ⟨rfl, rfl⟩
  · rintro ⟨rfl, rfl⟩
    rfl

theorem get_eq_ok_iff {u : σ} : (get : EStateM ε σ σ) s = .ok u t ↔ u = s ∧ t = s := by
  constructor
  · intro h
    cases h
    exact ⟨rfl, rfl⟩
  · rintro ⟨rfl, rfl⟩
    rfl

theorem get_ne_error : (get : EStateM ε σ σ) s = .error e t ↔ False := by
  constructor
  · intro h
    cases h
  · exact False.elim

end Steps

/-- A program that starts by looking at the state. -/
theorem get_bind {f : σ → EStateM ε σ β} {s : σ} : (get >>= f) s = f s s := rfl

theorem map_eq_bind (f : α → β) (x : EStateM ε σ α) :
    f <$> x = x >>= fun a ↦ pure (f a) := by
  funext s
  show EStateM.map f x s = EStateM.bind x (fun a ↦ pure (f a)) s
  rw [EStateM.map, EStateM.bind]
  cases x s <;> rfl

theorem map_of_ok {x : EStateM ε σ α} {s t : σ} {a : α} (f : α → β) (h : x s = .ok a t) :
    (f <$> x) s = .ok (f a) t := by
  rw [map_eq_bind, bind_of_ok h]
  rfl

theorem map_of_error {x : EStateM ε σ α} {s t : σ} {e : ε} (f : α → β) (h : x s = .error e t) :
    (f <$> x) s = .error e t := by
  rw [map_eq_bind, bind_of_error h]

/-- A value of a program with a function after it is the function of a value. -/
theorem map_eq_ok_iff {x : EStateM ε σ α} {s t : σ} {b : β} {f : α → β} :
    (f <$> x) s = .ok b t ↔ ∃ a, x s = .ok a t ∧ b = f a := by
  rw [map_eq_bind, bind_eq_ok_iff]
  constructor
  · rintro ⟨a, _, hx, hpure⟩
    obtain ⟨rfl, rfl⟩ := pure_eq_ok_iff.1 hpure
    exact ⟨a, hx, rfl⟩
  · rintro ⟨a, hx, rfl⟩
    exact ⟨a, t, hx, rfl⟩

/-- A function after a program changes none of its errors. -/
theorem map_eq_error_iff {x : EStateM ε σ α} {s t : σ} {e : ε} {f : α → β} :
    (f <$> x) s = .error e t ↔ x s = .error e t := by
  rw [map_eq_bind, bind_eq_error_iff]
  simp only [pure_ne_error, and_false, exists_false, or_false]

/-- The same of a computation without a state. -/
theorem except_bind_eq_ok_iff {x : Except ε α} {f : α → Except ε β} {b : β} :
    x >>= f = .ok b ↔ ∃ a, x = .ok a ∧ f a = .ok b := by
  cases x with
  | ok a =>
    show f a = .ok b ↔ _
    simp only [Except.ok.injEq, exists_eq_left']
  | error e =>
    show Except.error e = .ok b ↔ _
    simp only [reduceCtorEq, false_and, exists_false]

/-! ### What every outcome keeps -/

/-- Whatever its outcome, a program relates the state before it to the state after it, unless it
fails with an excused error. -/
structure Keeps (R : σ → σ → Prop) (excused : ε → Prop) (program : EStateM ε σ α) : Prop where
  of_ok : ∀ {s t : σ} {a : α}, program s = .ok a t → R s t
  of_error : ∀ {s t : σ} {e : ε}, program s = .error e t → excused e ∨ R s t

namespace Keeps

variable {R : σ → σ → Prop} {excused : ε → Prop}

/-- A program whose outcome is given for each state. -/
theorem of_outcome {program : EStateM ε σ α}
    (h : ∀ s, (∃ a t, program s = .ok a t ∧ R s t) ∨ ∃ e t, program s = .error e t ∧ R s t) :
    Keeps R excused program where
  of_ok {s _ _} hrun := by
    rcases h s with ⟨a, t, hok, hst⟩ | ⟨e, t, herror, -⟩
    · cases hok.symm.trans hrun
      exact hst
    · cases herror.symm.trans hrun
  of_error {s _ _} hrun := by
    rcases h s with ⟨a, t, hok, -⟩ | ⟨e, t, herror, hst⟩
    · cases hok.symm.trans hrun
    · cases herror.symm.trans hrun
      exact .inr hst

theorem pure [Std.Refl R] (a : α) : Keeps R excused (pure a : EStateM ε σ α) where
  of_ok h := by
    cases h
    exact Std.Refl.refl _
  of_error h := by
    cases h

theorem throw [Std.Refl R] (e : ε) : Keeps R excused (throw e : EStateM ε σ α) where
  of_ok h := by
    cases h
  of_error h := by
    cases h
    exact .inr (Std.Refl.refl _)

theorem get [Std.Refl R] : Keeps R excused (get : EStateM ε σ σ) where
  of_ok h := by
    cases h
    exact Std.Refl.refl _
  of_error h := by
    cases h

/-- A sequence keeps what both of its parts keep. -/
theorem bind [IsTrans σ R] {x : EStateM ε σ α} {f : α → EStateM ε σ β} (hx : Keeps R excused x)
    (hf : ∀ a, Keeps R excused (f a)) : Keeps R excused (x >>= f) where
  of_ok h := by
    obtain ⟨a, u, hxu, hfu⟩ := bind_eq_ok_iff.1 h
    exact IsTrans.trans _ _ _ (hx.of_ok hxu) ((hf a).of_ok hfu)
  of_error h := by
    rcases bind_eq_error_iff.1 h with hxu | ⟨a, u, hxu, hfu⟩
    · exact hx.of_error hxu
    · exact ((hf a).of_error hfu).imp_right (IsTrans.trans _ _ _ (hx.of_ok hxu))

/-- What a program keeps does not depend on what is done with its value. -/
theorem map [IsPreorder σ R] {x : EStateM ε σ α} (f : α → β) (hx : Keeps R excused x) :
    Keeps R excused (f <$> x) := by
  rw [map_eq_bind]
  exact hx.bind fun _ ↦ .pure _

theorem ite {c : Prop} [Decidable c] {x y : EStateM ε σ α} (hx : Keeps R excused x)
    (hy : Keeps R excused y) : Keeps R excused (if c then x else y) := by
  split
  · exact hx
  · exact hy

end Keeps

/-! ### Errors of one kind -/

/-- A program does not fail with an error of a kind. -/
def Avoids (kind : ε → Prop) (program : EStateM ε σ α) : Prop :=
  ∀ ⦃s t : σ⦄ ⦃e : ε⦄, program s = .error e t → ¬ kind e

namespace Avoids

variable {kind : ε → Prop}

theorem pure (a : α) : Avoids kind (pure a : EStateM ε σ α) := by
  intro s t e h
  cases h

theorem throw {e : ε} (he : ¬ kind e) : Avoids kind (throw e : EStateM ε σ α) := by
  intro s t e' h
  obtain ⟨rfl, -⟩ := throw_eq_error_iff.1 h
  exact he

theorem get : Avoids kind (get : EStateM ε σ σ) := by
  intro s t e h
  cases h

/-- A sequence avoids the errors that its parts avoid. -/
theorem bind {x : EStateM ε σ α} {f : α → EStateM ε σ β} (hx : Avoids kind x)
    (hf : ∀ a, Avoids kind (f a)) : Avoids kind (x >>= f) := by
  intro s t e h
  rcases bind_eq_error_iff.1 h with h | ⟨a, u, -, h⟩
  · exact hx h
  · exact hf a h

theorem map {x : EStateM ε σ α} (f : α → β) (hx : Avoids kind x) : Avoids kind (f <$> x) := by
  rw [map_eq_bind]
  exact hx.bind fun _ ↦ .pure _

theorem ite {c : Prop} [Decidable c] {x y : EStateM ε σ α} (hx : Avoids kind x)
    (hy : Avoids kind y) : Avoids kind (if c then x else y) := by
  split
  · exact hx
  · exact hy

theorem mono {kind' : ε → Prop} {x : EStateM ε σ α} (hx : Avoids kind x)
    (h : ∀ e, kind' e → kind e) : Avoids kind' x :=
  fun _ _ e hrun hkind ↦ hx hrun (h e hkind)

end Avoids

/-- A program that fails with an error of a kind relates the state before it to the one after it. -/
def Spares (kind : ε → Prop) (R : σ → σ → Prop) (program : EStateM ε σ α) : Prop :=
  ∀ ⦃s t : σ⦄ ⦃e : ε⦄, program s = .error e t → kind e → R s t

namespace Spares

variable {kind : ε → Prop} {R : σ → σ → Prop}

/-- A program without errors of the kind spares the state trivially. -/
theorem of_avoids {x : EStateM ε σ α} (hx : Avoids kind x) : Spares kind R x :=
  fun _ _ _ h hkind ↦ absurd hkind (hx h)

theorem throw [Std.Refl R] (e : ε) : Spares kind R (throw e : EStateM ε σ α) := by
  intro s t e' h _
  obtain ⟨-, rfl⟩ := throw_eq_error_iff.1 h
  exact Std.Refl.refl _

/-- Only what comes first may fail with such an error. -/
theorem bind {x : EStateM ε σ α} {f : α → EStateM ε σ β} (hx : Spares kind R x)
    (hf : ∀ a, Avoids kind (f a)) : Spares kind R (x >>= f) := by
  intro s t e h hkind
  rcases bind_eq_error_iff.1 h with h | ⟨a, u, -, h⟩
  · exact hx h hkind
  · exact absurd hkind (hf a h)

/-- What comes first may also be a step that relates the states itself. -/
theorem after [IsTrans σ R] {x : EStateM ε σ α} {f : α → EStateM ε σ β} (hx : Spares kind R x)
    (hok : ∀ ⦃s t : σ⦄ ⦃a : α⦄, x s = .ok a t → R s t) (hf : ∀ a, Spares kind R (f a)) :
    Spares kind R (x >>= f) := by
  intro s t e h hkind
  rcases bind_eq_error_iff.1 h with h | ⟨a, u, hxu, h⟩
  · exact hx h hkind
  · exact IsTrans.trans _ _ _ (hok hxu) (hf a h hkind)

/-- A program that looks at the state first spares it if it does so afterwards. -/
theorem get_bind {f : σ → EStateM ε σ α} (hf : ∀ s, Spares kind R (f s)) :
    Spares kind R (get >>= f) :=
  fun s _ _ h ↦ hf s h

theorem map {x : EStateM ε σ α} (f : α → β) (hx : Spares kind R x) : Spares kind R (f <$> x) := by
  rw [map_eq_bind]
  exact hx.bind fun _ ↦ .pure _

theorem ite {c : Prop} [Decidable c] {x y : EStateM ε σ α} (hx : Spares kind R x)
    (hy : Spares kind R y) : Spares kind R (if c then x else y) := by
  split
  · exact hx
  · exact hy

end Spares

end LoraConcentrator.Program
