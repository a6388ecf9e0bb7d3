import Mathlib.Control.Basic

/-!
# Computations that leave effects behind

`Proc τ η α` is a computation that performs effects of type `τ`, one after
another, and then either returns a value of type `α` or halts with an `η`.  The
effects performed before it halts stay performed.

The monad is lawful, and every law is stated on the two components: the effects
of a sequence are the effects of its parts in order (`effects_bind_ok`), and
nothing behind a part that halts is performed (`effects_bind_error`).

`Follows m ℓ L` is a rule of reasoning about the effects of a whole run.  It says
that from a point where the effects still to come may be any list in `ℓ`, the
computation `m` leads to a point where they may be any list in `L a`, with `a` what
it returned.  `Satisfies m E Q H` is the plainer triple: what each effect is, what is
returned and what the computation may halt with.
-/

universe u v w

/-- A computation with effects in `τ` that may halt with an `η`. -/
@[ext]
structure Proc (τ : Type u) (η : Type v) (α : Type w) where
  effects : List τ
  result : Except η α

namespace Proc

variable {τ : Type u} {η : Type v} {α β γ : Type w}

/-- Return at once. -/
protected def pure (a : α) : Proc τ η α := ⟨[], .ok a⟩

/-- Perform one effect. -/
def effect (e : τ) : Proc τ η PUnit := ⟨[e], .ok ⟨⟩⟩

/-- Perform effects. -/
def perform (es : List τ) : Proc τ η PUnit := ⟨es, .ok ⟨⟩⟩

/-- Halt at once. -/
def halt (h : η) : Proc τ η α := ⟨[], .error h⟩

/-- A result without effects. -/
def ofExcept (r : Except η α) : Proc τ η α := ⟨[], r⟩

/-- The same computation, its effects seen as other ones. -/
def mapEffects {σ : Type u} (f : τ → σ) (m : Proc τ η α) : Proc σ η α :=
  ⟨m.effects.map f, m.result⟩

/-- One computation after another; what follows a halt does not happen. -/
protected def bind (m : Proc τ η α) (f : α → Proc τ η β) : Proc τ η β :=
  match m.result with
  | .ok a => ⟨m.effects ++ (f a).effects, (f a).result⟩
  | .error h => ⟨m.effects, .error h⟩

instance : Monad (Proc τ η) where
  pure := Proc.pure
  bind := Proc.bind

theorem bind_def (m : Proc τ η α) (f : α → Proc τ η β) : m >>= f = m.bind f := rfl

@[simp] theorem effects_pure (a : α) : (pure a : Proc τ η α).effects = [] := rfl

@[simp] theorem result_pure (a : α) : (pure a : Proc τ η α).result = .ok a := rfl

@[simp] theorem effects_halt (h : η) : (halt h : Proc τ η α).effects = [] := rfl

@[simp] theorem result_halt (h : η) : (halt h : Proc τ η α).result = .error h := rfl

@[simp] theorem effects_ofExcept (r : Except η α) : (ofExcept r : Proc τ η α).effects = [] := rfl

@[simp] theorem result_ofExcept (r : Except η α) : (ofExcept r : Proc τ η α).result = r := rfl

@[simp] theorem effects_mapEffects {σ : Type u} (f : τ → σ) (m : Proc τ η α) :
    (m.mapEffects f).effects = m.effects.map f := rfl

@[simp] theorem result_mapEffects {σ : Type u} (f : τ → σ) (m : Proc τ η α) :
    (m.mapEffects f).result = m.result := rfl

/-- The effects of a sequence are those of its parts, in order. -/
theorem effects_bind_ok {m : Proc τ η α} {a : α} (h : m.result = .ok a) (f : α → Proc τ η β) :
    (m >>= f).effects = m.effects ++ (f a).effects := by
  rw [bind_def, Proc.bind, h]

theorem result_bind_ok {m : Proc τ η α} {a : α} (h : m.result = .ok a) (f : α → Proc τ η β) :
    (m >>= f).result = (f a).result := by
  rw [bind_def, Proc.bind, h]

/-- Nothing behind a halt is performed. -/
theorem effects_bind_error {m : Proc τ η α} {x : η} (h : m.result = .error x)
    (f : α → Proc τ η β) : (m >>= f).effects = m.effects := by
  rw [bind_def, Proc.bind, h]

theorem result_bind_error {m : Proc τ η α} {x : η} (h : m.result = .error x)
    (f : α → Proc τ η β) : (m >>= f).result = .error x := by
  rw [bind_def, Proc.bind, h]

/-- A sequence returns if each part does. -/
theorem result_bind_eq_ok {m : Proc τ η α} {f : α → Proc τ η β} {b : β}
    (h : (m >>= f).result = .ok b) : ∃ a, m.result = .ok a ∧ (f a).result = .ok b := by
  cases hm : m.result with
  | ok a =>
      rw [result_bind_ok hm] at h
      exact ⟨a, rfl, h⟩
  | error x =>
      rw [result_bind_error hm] at h
      cases h

/-- A sequence halts where one of its parts does. -/
theorem result_bind_eq_error {m : Proc τ η α} {f : α → Proc τ η β} {x : η}
    (h : (m >>= f).result = .error x) :
    m.result = .error x ∨ ∃ a, m.result = .ok a ∧ (f a).result = .error x := by
  cases hm : m.result with
  | ok a =>
      rw [result_bind_ok hm] at h
      exact .inr ⟨a, rfl, h⟩
  | error y =>
      rw [result_bind_error hm] at h
      cases h
      exact .inl rfl

private theorem id_map_aux (m : Proc τ η α) : (m.bind fun a ↦ Proc.pure a) = m := by
  cases h : m.result with
  | ok a => ext1 <;> simp [Proc.bind, Proc.pure, h]
  | error x => ext1 <;> simp [Proc.bind, h]

private theorem bind_assoc_aux (m : Proc τ η α) (f : α → Proc τ η β) (g : β → Proc τ η γ) :
    (m.bind f).bind g = m.bind fun a ↦ (f a).bind g := by
  cases h : m.result with
  | ok a =>
      cases h' : (f a).result with
      | ok b => ext1 <;> simp [Proc.bind, h, h']
      | error x => ext1 <;> simp [Proc.bind, h, h']
  | error x => ext1 <;> simp [Proc.bind, h]

instance : LawfulMonad (Proc τ η) :=
  LawfulMonad.mk' _ (fun m ↦ id_map_aux m) (fun _ _ ↦ rfl) (fun m f g ↦ bind_assoc_aux m f g)

@[simp] theorem halt_bind (h : η) (f : α → Proc τ η β) :
    (halt h : Proc τ η α) >>= f = halt h := rfl

@[simp] theorem ofExcept_ok_bind (a : α) (f : α → Proc τ η β) :
    ofExcept (.ok a) >>= f = f a := pure_bind a f

@[simp] theorem ofExcept_error_bind (h : η) (f : α → Proc τ η β) :
    (ofExcept (.error h) : Proc τ η α) >>= f = halt h := rfl

/-! ## Languages of effects -/

/-- From the language `ℓ` of effects to come, `m` leads to the language `L a`. -/
def Follows (m : Proc τ η α) (ℓ : List τ → Prop) (L : α → List τ → Prop) : Prop :=
  (∀ a, m.result = .ok a → ∀ rest, L a rest → ℓ (m.effects ++ rest)) ∧
    ∀ x, m.result = .error x → ℓ m.effects

namespace Follows

variable {m : Proc τ η α} {ℓ : List τ → Prop} {L : α → List τ → Prop}

theorem of_pure {a : α} (h : ∀ rest, L a rest → ℓ rest) :
    Follows (pure a : Proc τ η α) ℓ L := by
  constructor
  · intro b hb rest hrest
    cases hb
    exact h rest hrest
  · intro x hx
    cases hx

theorem of_halt {x : η} (h : ℓ []) : Follows (halt x : Proc τ η α) ℓ L := by
  constructor
  · intro a ha
    cases ha
  · intro _ _
    exact h

/-- A computation that performs nothing keeps the language. -/
theorem of_ofExcept {r : Except η α} (hℓ : ℓ []) (h : ∀ a, r = .ok a → ∀ rest, L a rest → ℓ rest) :
    Follows (ofExcept r) ℓ L := by
  constructor
  · intro a ha rest hrest
    exact h a ha rest hrest
  · intro _ _
    exact hℓ

theorem of_effect {e : τ} {L : PUnit → List τ → Prop} (h : ∀ rest, L ⟨⟩ rest → ℓ (e :: rest)) :
    Follows (effect e : Proc τ η PUnit) ℓ L := by
  constructor
  · intro a _ rest hrest
    exact h rest hrest
  · intro x hx
    cases hx

/-- Languages compose along a sequence. -/
theorem bind {f : α → Proc τ η β} {M : β → List τ → Prop} (hm : Follows m ℓ L)
    (hf : ∀ a, m.result = .ok a → Follows (f a) (L a) M) : Follows (m >>= f) ℓ M := by
  cases h : m.result with
  | error x =>
      constructor
      · intro b hb
        rw [result_bind_error h] at hb
        cases hb
      · intro y _
        rw [effects_bind_error h]
        exact hm.2 x h
  | ok a =>
      constructor
      · intro b hb rest hrest
        rw [result_bind_ok h] at hb
        rw [effects_bind_ok h, List.append_assoc]
        exact hm.1 a h _ ((hf a h).1 b hb rest hrest)
      · intro y hy
        rw [result_bind_ok h] at hy
        rw [effects_bind_ok h]
        exact hm.1 a h _ ((hf a h).2 y hy)

/-- If the language behind a computation allows an empty rest, its own effects are in
the language before it. -/
theorem effects_mem (hm : Follows m ℓ L) (hL : ∀ a, L a []) : ℓ m.effects := by
  cases h : m.result with
  | error x => exact hm.2 x h
  | ok a =>
      have := hm.1 a h [] (hL a)
      rwa [List.append_nil] at this

end Follows

/-! ## Triples -/

/-- Every effect of `m` is in `E`; what it returns is in `Q`, and what it halts with in `H`. -/
structure Satisfies (m : Proc τ η α) (E : τ → Prop) (Q : α → Prop) (H : η → Prop) : Prop where
  effects : ∀ e ∈ m.effects, E e
  returns : ∀ a, m.result = .ok a → Q a
  halts : ∀ x, m.result = .error x → H x

namespace Satisfies

variable {m : Proc τ η α} {E E' : τ → Prop} {Q Q' : α → Prop} {H H' : η → Prop}

/-- Nothing is said of a computation. -/
theorem top (m : Proc τ η α) : Satisfies m (fun _ ↦ True) (fun _ ↦ True) (fun _ ↦ True) :=
  ⟨fun _ _ ↦ trivial, fun _ _ ↦ trivial, fun _ _ ↦ trivial⟩

theorem of_pure {a : α} (h : Q a) : Satisfies (pure a : Proc τ η α) E Q H where
  effects _ he := absurd he List.not_mem_nil
  returns _ ha := Except.ok.inj ha ▸ h
  halts _ hx := absurd hx nofun

theorem of_halt {x : η} (h : H x) : Satisfies (halt x : Proc τ η α) E Q H where
  effects _ he := absurd he List.not_mem_nil
  returns _ ha := absurd ha nofun
  halts _ hx := Except.error.inj hx ▸ h

theorem of_ofExcept {r : Except η α} (hok : ∀ a, r = .ok a → Q a) (herr : ∀ x, r = .error x → H x) :
    Satisfies (ofExcept r : Proc τ η α) E Q H where
  effects _ he := absurd he List.not_mem_nil
  returns := hok
  halts := herr

theorem of_effect {e : τ} {Q : PUnit → Prop} (he : E e) (hq : Q ⟨⟩) :
    Satisfies (effect e : Proc τ η PUnit) E Q H where
  effects _ hmem := List.mem_singleton.1 hmem ▸ he
  returns _ _ := hq
  halts _ hx := absurd hx nofun

theorem of_perform {es : List τ} {Q : PUnit → Prop} (he : ∀ e ∈ es, E e) (hq : Q ⟨⟩) :
    Satisfies (perform es : Proc τ η PUnit) E Q H where
  effects := he
  returns _ _ := hq
  halts _ hx := absurd hx nofun

theorem mono (hm : Satisfies m E Q H) (hE : ∀ e, E e → E' e) (hQ : ∀ a, Q a → Q' a)
    (hH : ∀ x, H x → H' x) : Satisfies m E' Q' H' where
  effects e he := hE e (hm.effects e he)
  returns a ha := hQ a (hm.returns a ha)
  halts x hx := hH x (hm.halts x hx)

/-- Triples compose along a sequence. -/
theorem bind {f : α → Proc τ η β} {R : β → Prop} (hm : Satisfies m E Q H)
    (hf : ∀ a, Q a → Satisfies (f a) E R H) : Satisfies (m >>= f) E R H := by
  cases h : m.result with
  | error x =>
      constructor
      · rw [effects_bind_error h]
        exact hm.effects
      · intro b hb
        rw [result_bind_error h] at hb
        cases hb
      · intro y hy
        rw [result_bind_error h] at hy
        cases hy
        exact hm.halts x h
  | ok a =>
      have ha := hf a (hm.returns a h)
      constructor
      · intro e he
        rw [effects_bind_ok h] at he
        rcases List.mem_append.1 he with he | he
        · exact hm.effects e he
        · exact ha.effects e he
      · rw [result_bind_ok h]
        exact ha.returns
      · rw [result_bind_ok h]
        exact ha.halts

/-- One effect, and what follows it. -/
theorem effect_bind {e : τ} {f : PUnit → Proc τ η α} (he : E e) (hm : Satisfies (f ⟨⟩) E Q H) :
    Satisfies (effect e >>= f) E Q H :=
  (of_effect (Q := fun _ ↦ True) he trivial).bind fun _ _ ↦ hm

/-- The same computation with its effects seen as other ones. -/
theorem mapEffects {σ : Type u} {f : τ → σ} {F : σ → Prop} (hm : Satisfies m E Q H)
    (hf : ∀ e, E e → F (f e)) : Satisfies (m.mapEffects f) F Q H where
  effects e he := by
    obtain ⟨e', he', rfl⟩ := List.mem_map.1 he
    exact hf e' (hm.effects e' he')
  returns := hm.returns
  halts := hm.halts

end Satisfies

end Proc
