import Mathlib.Init

/-!
# Computations that change a state and may fail

A computation of `EStateM ε σ` that fails keeps the state it has reached, as a function does
that works on a borrowed value and returns early.  Four things are added here.

* `tried m` is `m` with its failure as a value, so that the next step can look at it.
* `zoom view put m` runs `m` on a part of a larger state.
* `Ensures m s Q` says that from the state `s` the computation ends with an outcome and a state
  of which `Q` holds.  There is one rule for each way to build a computation; a computation
  in two steps needs what is known between them (`Ensures.bind`).
* `Simulates view I m m' t` says that from the state `t` the computation does what `m'` does, if
  the state is seen through `view`, and that it keeps the invariant `I`.
-/

universe u

namespace EStateM

variable {ε σ τ α β : Type u}

/-- The outcome of a computation, and the state it leaves. -/
def attempt (m : EStateM ε σ α) (s : σ) : Except ε α × σ :=
  match m s with
  | .ok a s => (.ok a, s)
  | .error e s => (.error e, s)

/-- The same computation, its failure a value. -/
def tried (m : EStateM ε σ α) : EStateM ε σ (Except ε α) := fun s ↦
  .ok (m.attempt s).1 (m.attempt s).2

/-- A computation on a part of the state. -/
def zoom (view : τ → σ) (put : σ → τ → τ) (m : EStateM ε σ α) : EStateM ε τ α := fun t ↦
  match m (view t) with
  | .ok a s => .ok a (put s t)
  | .error e s => .error e (put s t)

/-- The computation with this outcome. -/
def ofExcept (r : Except ε α) : EStateM ε σ α :=
  match r with
  | .ok a => pure a
  | .error e => throw e

/-- **From a state, a computation ends** with an outcome and a state such as these. -/
def Ensures (m : EStateM ε σ α) (s : σ) (Q : Except ε α → σ → Prop) : Prop :=
  Q (m.attempt s).1 (m.attempt s).2

variable {m : EStateM ε σ α} {f : α → EStateM ε σ β} {s : σ} {Q R : Except ε α → σ → Prop}
  {Q' : Except ε β → σ → Prop}

theorem attempt_bind (m : EStateM ε σ α) (f : α → EStateM ε σ β) (s : σ) :
    (m >>= f).attempt s = match m.attempt s with
      | (.ok a, s) => (f a).attempt s
      | (.error e, s) => (.error e, s) := by
  show (match EStateM.bind m f s with | .ok a s => _ | .error e s => _) = _
  rw [EStateM.bind, attempt]
  cases m s with
  | ok a s => rfl
  | error e s => rfl

/-- A computation in two steps returns if both do. -/
theorem attempt_bind_ok {a : α} {s' : σ} (h : m.attempt s = (.ok a, s')) :
    (m >>= f).attempt s = (f a).attempt s' := by
  rw [attempt_bind, h]

theorem attempt_bind_error {e : ε} {s' : σ} (h : m.attempt s = (.error e, s')) :
    (m >>= f).attempt s = (.error e, s') := by
  rw [attempt_bind, h]

@[simp] theorem attempt_pure (a : α) (s : σ) :
    (pure a : EStateM ε σ α).attempt s = (.ok a, s) := rfl

@[simp] theorem attempt_throw (e : ε) (s : σ) :
    (throw e : EStateM ε σ α).attempt s = (.error e, s) := rfl

@[simp] theorem attempt_get (s : σ) : (get : EStateM ε σ σ).attempt s = (.ok s, s) := rfl

@[simp] theorem attempt_tried (m : EStateM ε σ α) (s : σ) :
    m.tried.attempt s = (.ok (m.attempt s).1, (m.attempt s).2) := rfl

@[simp] theorem attempt_ofExcept (r : Except ε α) (s : σ) :
    (ofExcept r : EStateM ε σ α).attempt s = (r, s) := by
  cases r <;> rfl

/-- The state is looked at first. -/
theorem attempt_get_bind (f : σ → EStateM ε σ β) (s : σ) :
    ((get : EStateM ε σ σ) >>= f).attempt s = (f s).attempt s := rfl

/-- The state is set first. -/
theorem attempt_set_bind (t : σ) (f : PUnit → EStateM ε σ β) (s : σ) :
    ((set t : EStateM ε σ PUnit) >>= f).attempt s = (f ⟨⟩).attempt t := rfl

/-- A failure is looked at first. -/
theorem attempt_tried_bind (m : EStateM ε σ α) (f : Except ε α → EStateM ε σ β) (s : σ) :
    (m.tried >>= f).attempt s = (f (m.attempt s).1).attempt (m.attempt s).2 := rfl

@[simp] theorem attempt_zoom (view : τ → σ) (put : σ → τ → τ) (m : EStateM ε σ α) (t : τ) :
    (m.zoom view put).attempt t =
      ((m.attempt (view t)).1, put (m.attempt (view t)).2 t) := by
  rw [attempt, attempt, zoom]
  cases m (view t) with
  | ok a s => rfl
  | error e s => rfl

namespace Ensures

theorem mono (h : m.Ensures s R) (hQ : ∀ r s', R r s' → Q r s') : m.Ensures s Q := hQ _ _ h

/-- It is a matter of what the computation does. -/
theorem of_attempt {m' : EStateM ε σ α} (hattempt : m.attempt s = m'.attempt s)
    (h : m'.Ensures s Q) : m.Ensures s Q := by
  rw [Ensures, hattempt]
  exact h

theorem and (h : m.Ensures s Q) (h' : m.Ensures s R) : m.Ensures s fun r s' ↦ Q r s' ∧ R r s' :=
  ⟨h, h'⟩

theorem throw {e : ε} (h : Q (.error e) s) :
    (MonadExcept.throw e : EStateM ε σ α).Ensures s Q := h

/-- **Two steps**: what follows a failure does not happen. -/
theorem bind (h : m.Ensures s R) (hok : ∀ a s', R (.ok a) s' → (f a).Ensures s' Q')
    (herror : ∀ e s', R (.error e) s' → Q' (.error e) s') : (m >>= f).Ensures s Q' := by
  have hR : R (m.attempt s).1 (m.attempt s).2 := h
  rw [Ensures, attempt_bind]
  generalize m.attempt s = out at hR
  obtain ⟨r, s'⟩ := out
  cases r with
  | ok a => exact hok a s' hR
  | error e => exact herror e s' hR

/-- The state is looked at first. -/
theorem get_bind {f : σ → EStateM ε σ β} (h : (f s).Ensures s Q') :
    ((MonadState.get : EStateM ε σ σ) >>= f).Ensures s Q' := h

/-- The state is set first. -/
theorem set_bind {t : σ} {f : PUnit → EStateM ε σ β} (h : (f ⟨⟩).Ensures t Q') :
    ((set t : EStateM ε σ PUnit) >>= f).Ensures s Q' := h

/-- The state is changed first. -/
theorem modify_bind {g : σ → σ} {f : PUnit → EStateM ε σ β} (h : (f ⟨⟩).Ensures (g s) Q') :
    ((modify g : EStateM ε σ PUnit) >>= f).Ensures s Q' := h

theorem ite {c : Prop} [Decidable c] {m' : EStateM ε σ α} (h : c → m.Ensures s Q)
    (h' : ¬ c → m'.Ensures s Q) : (if c then m else m').Ensures s Q := by
  split
  · exact h ‹_›
  · exact h' ‹_›

theorem ofExcept {r : Except ε α} (h : Q r s) :
    (EStateM.ofExcept r : EStateM ε σ α).Ensures s Q := by
  rw [Ensures, attempt_ofExcept]
  exact h

theorem ofExcept_bind {r : Except ε α} {a : α} (hr : r = .ok a) (h : (f a).Ensures s Q') :
    ((EStateM.ofExcept r : EStateM ε σ α) >>= f).Ensures s Q' := by
  rw [hr]
  exact h

/-- **A part of the state** changes and the rest does not. -/
theorem zoom {view : τ → σ} {put : σ → τ → τ} {t : τ} {Q : Except ε α → τ → Prop}
    (h : m.Ensures (view t) fun r s ↦ Q r (put s t)) : (m.zoom view put).Ensures t Q := by
  rw [Ensures, attempt_zoom]
  exact h

end Ensures

/-! ## Simulation -/

/-- **Seen through `view`, a computation does what `m'` does** from the state `t`, and `I` holds
then. -/
def Simulates (view : τ → σ) (I : τ → Prop) (m : EStateM ε τ α) (m' : EStateM ε σ α) (t : τ) :
    Prop :=
  m.Ensures t fun r t' ↦ m'.attempt (view t) = (r, view t') ∧ I t'

namespace Simulates

variable {view : τ → σ} {I : τ → Prop} {m : EStateM ε τ α} {m' : EStateM ε σ α} {t : τ}

theorem pure (h : I t) (a : α) :
    Simulates view I (Pure.pure a : EStateM ε τ α) (Pure.pure a) t := ⟨rfl, h⟩

theorem throw (h : I t) (e : ε) :
    Simulates view I (MonadExcept.throw e : EStateM ε τ α) (MonadExcept.throw e) t := ⟨rfl, h⟩

theorem ofExcept (h : I t) (r : Except ε α) :
    Simulates view I (EStateM.ofExcept r : EStateM ε τ α) (EStateM.ofExcept r) t := by
  rw [Simulates, Ensures, attempt_ofExcept, attempt_ofExcept]
  exact ⟨rfl, h⟩

theorem tried (h : Simulates view I m m' t) : Simulates view I m.tried m'.tried t := by
  have h' : m'.attempt (view t) = _ ∧ _ := h
  rw [Simulates, Ensures, attempt_tried, attempt_tried, h'.1]
  exact ⟨rfl, h'.2⟩

/-- **Two steps** are simulated if both are. -/
theorem bind {f : α → EStateM ε τ β} {f' : α → EStateM ε σ β} (h : Simulates view I m m' t)
    (hf : ∀ a t', I t' → Simulates view I (f a) (f' a) t') :
    Simulates view I (m >>= f) (m' >>= f') t := by
  refine Ensures.bind h ?_ ?_
  · rintro a t' ⟨hm', ht'⟩
    refine (hf a t' ht').mono fun r t'' ⟨hf', ht''⟩ ↦ ⟨?_, ht''⟩
    rw [attempt_bind_ok hm', hf']
  · rintro e t' ⟨hm', ht'⟩
    exact ⟨attempt_bind_error hm', ht'⟩

/-- The state is looked at first. -/
theorem get_bind {f : τ → EStateM ε τ β} {f' : σ → EStateM ε σ β}
    (h : Simulates view I (f t) (f' (view t)) t) :
    Simulates view I (MonadState.get >>= f) (MonadState.get >>= f') t := h

/-- A computation on the part that is seen. -/
theorem zoom {put : σ → τ → τ} (m : EStateM ε σ α) (hput : ∀ s, view (put s t) = s)
    (hI : ∀ s, I (put s t)) : Simulates view I (m.zoom view put) m t := by
  rw [Simulates, Ensures, attempt_zoom]
  exact ⟨Prod.ext rfl (hput _).symm, hI _⟩

/-- What is not seen is done first. -/
theorem unseen_bind {n : EStateM ε τ PUnit} {f : PUnit → EStateM ε τ α} {m' : EStateM ε σ α}
    (h : Simulates view I n (Pure.pure ⟨⟩) t)
    (hf : ∀ t', I t' → Simulates view I (f ⟨⟩) m' t') : Simulates view I (n >>= f) m' t :=
  bind h fun _ ↦ hf

end Simulates

end EStateM
