import Mathlib.Algebra.BigOperators.Group.Finset.Piecewise
import Mathlib.Algebra.Order.BigOperators.Group.Finset

/-!
# Transition systems, histories and tokens

Three tools for state machines in which many threads take turns.

* `Reach step ok init s` says that a run of a partial step function leads from `init`
  to `s`, every step of it allowed by `ok`.  Invariants are proved with
  `Reach.invariant`, and `Reach.of_run` turns a list of actions into a run.
* `Justified J h` says that every entry of the history `h` (newest first) is
  justified by the entries before it, in the sense of `J`.
* `census f xs` counts tokens that are spread over the places of a family `xs`.
  `census_update` says what happens when one place changes; a token that moves from
  one place to another is two such changes.
-/

universe u v

namespace Transition

variable {σ : Type u} {α : Type v}

/-! ## Runs -/

/-- Actions one after another, as long as they are enabled. -/
def run (step : σ → α → Option σ) (s : σ) : List α → Option σ
  | [] => some s
  | a :: as => (step s a).bind fun s' ↦ run step s' as

theorem run_append (step : σ → α → Option σ) (s : σ) (as bs : List α) :
    run step s (as ++ bs) = (run step s as).bind fun s' ↦ run step s' bs := by
  induction as generalizing s with
  | nil => rfl
  | cons a as ih =>
      rw [List.cons_append, run, run, Option.bind_assoc]
      exact congrArg _ (funext fun s' ↦ ih s')

/-- **What holds at first and is kept by every step holds at the end of every run**, of the
actions taken and the state they lead to. -/
theorem run_induction {step : σ → α → Option σ} {init : σ} {P : List α → σ → Prop}
    (hinit : P [] init)
    (hstep : ∀ {as s a s'}, P as s → step s a = some s' → P (as ++ [a]) s') {as : List α} {s : σ}
    (h : run step init as = some s) : P as s := by
  induction as using List.reverseRecOn generalizing s with
  | nil =>
      cases h
      exact hinit
  | append_singleton as a ih =>
      rw [run_append] at h
      obtain ⟨s', hs', h⟩ := Option.bind_eq_some_iff.1 h
      obtain ⟨s'', hs'', h⟩ := Option.bind_eq_some_iff.1 h
      cases h
      exact hstep (ih hs') hs''

/-- The states that are reached by steps which `ok` allows. -/
inductive Reach (step : σ → α → Option σ) (ok : σ → α → Prop) (init : σ) : σ → Prop
  | refl : Reach step ok init init
  | tail {s s' : σ} {a : α} (h : Reach step ok init s) (hok : ok s a) (hs : step s a = some s') :
      Reach step ok init s'

namespace Reach

variable {step : σ → α → Option σ} {ok ok' : σ → α → Prop} {init s s' : σ}

/-- **What holds at first and is kept by every step holds in every state reached.** -/
theorem invariant {P : σ → Prop} (hinit : P init)
    (hstep : ∀ {s s' a}, P s → ok s a → step s a = some s' → P s') (h : Reach step ok init s) :
    P s := by
  induction h with
  | refl => exact hinit
  | tail _ hok hs ih => exact hstep ih hok hs

theorem mono (hok : ∀ {s a}, ok s a → ok' s a) (h : Reach step ok init s) :
    Reach step ok' init s := by
  induction h with
  | refl => exact .refl
  | tail _ h hs ih => exact ih.tail (hok h) hs

theorem trans (h : Reach step ok init s) (h' : Reach step ok s s') : Reach step ok init s' := by
  induction h' with
  | refl => exact h
  | tail _ hok hs ih => exact ih.tail hok hs

/-- A list of actions is a run, if nothing forbids them. -/
theorem of_run {as : List α} (hok : ∀ a ∈ as, ∀ s, ok s a) (h : run step init as = some s) :
    Reach step ok init s := by
  induction as generalizing init with
  | nil =>
      cases h
      exact .refl
  | cons a as ih =>
      obtain ⟨s', hs', h⟩ := Option.bind_eq_some_iff.1 h
      have ha : ok init a := hok a List.mem_cons_self init
      exact (Reach.refl.tail ha hs').trans (ih (fun a' ha' ↦ hok a' (List.mem_cons_of_mem _ ha')) h)

/-- A list of actions is a run, if each is checked before it is taken. -/
theorem of_checked_run {check : σ → α → Bool} {as : List α}
    (hcheck : ∀ s a, check s a = true → ok s a)
    (h : run (fun s a ↦ if check s a then step s a else none) init as = some s) :
    Reach step ok init s := by
  induction as generalizing init with
  | nil =>
      cases h
      exact .refl
  | cons a as ih =>
      obtain ⟨s', hs', h⟩ := Option.bind_eq_some_iff.1 h
      cases ha : check init a with
      | true =>
          simp only [ha, if_true] at hs'
          exact (Reach.refl.tail (hcheck init a ha) hs').trans (ih h)
      | false => simp [ha] at hs'

end Reach

/-! ## Histories -/

/-- Every entry of a history, newest first, is justified by those before it. -/
def Justified {ε : Type u} (J : ε → List ε → Prop) : List ε → Prop
  | [] => True
  | e :: h => J e h ∧ Justified J h

namespace Justified

variable {ε : Type u} {J : ε → List ε → Prop}

theorem of_append {l h : List ε} (hJ : Justified J (l ++ h)) : Justified J h := by
  induction l with
  | nil => exact hJ
  | cons e l ih => exact ih hJ.2

/-- What justifies an entry is what stands before it. -/
theorem split {l h : List ε} {e : ε} (hJ : Justified J (l ++ e :: h)) : J e h :=
  hJ.of_append.1

/-- Every entry is justified by some earlier part of the history. -/
theorem of_mem {h : List ε} {e : ε} (hJ : Justified J h) (he : e ∈ h) :
    ∃ later earlier, h = later ++ e :: earlier ∧ J e earlier := by
  obtain ⟨later, earlier, rfl⟩ := List.append_of_mem he
  exact ⟨later, earlier, rfl, hJ.split⟩

/-- New entries, each justified by what stands before it. -/
theorem append {l h : List ε} (hJ : Justified J h) (hl : ∀ e ∈ l, ∀ l', J e (l' ++ h)) :
    Justified J (l ++ h) := by
  induction l with
  | nil => exact hJ
  | cons e l ih =>
      exact ⟨hl e List.mem_cons_self l, ih fun e' he' ↦ hl e' (List.mem_cons_of_mem _ he')⟩

end Justified

/-- An entry of a history that has grown is a new one, or the new ones are all later. -/
theorem split_append {ε : Type u} {new h later earlier : List ε} {e : ε}
    (heq : new ++ h = later ++ e :: earlier) :
    e ∈ new ∨ ∃ later', later = new ++ later' ∧ h = later' ++ e :: earlier := by
  rcases List.append_eq_append_iff.1 heq with ⟨l, rfl, hh⟩ | ⟨l, rfl, hh⟩
  · exact .inr ⟨l, rfl, hh⟩
  · cases l with
    | nil => exact .inr ⟨[], by rw [List.append_nil, List.append_nil], hh.symm⟩
    | cons e' l =>
        cases hh
        exact .inl (List.mem_append_right _ List.mem_cons_self)

/-! ## Tokens -/

section Census

variable {ι : Type u} [Fintype ι] [DecidableEq ι]

/-- The tokens of all places together, `f` counting those of one place. -/
def census (f : σ → Nat) (xs : ι → σ) : Nat := ∑ i, f (xs i)

/-- One place changes: what it has lost and what it has gained. -/
theorem census_update (f : σ → Nat) (xs : ι → σ) (i : ι) (x : σ) :
    census f (Function.update xs i x) + f (xs i) = census f xs + f x := by
  have hupdate : (fun j ↦ f (Function.update xs i x j)) =
      Function.update (fun j ↦ f (xs j)) i (f x) := by
    funext j
    rw [Function.apply_update (fun _ ↦ f)]
  rw [census, census, hupdate, Finset.sum_update_of_mem (Finset.mem_univ i),
    ← Finset.add_sum_erase Finset.univ (fun j ↦ f (xs j)) (Finset.mem_univ i),
    Finset.sdiff_singleton_eq_erase]
  omega

omit [DecidableEq ι] in
theorem le_census (f : σ → Nat) (xs : ι → σ) (i : ι) : f (xs i) ≤ census f xs :=
  Finset.single_le_sum (f := fun j ↦ f (xs j)) (fun _ _ ↦ Nat.zero_le _) (Finset.mem_univ i)

omit [DecidableEq ι] in
theorem census_eq_zero {f : σ → Nat} {xs : ι → σ} (h : ∀ i, f (xs i) = 0) : census f xs = 0 :=
  Finset.sum_eq_zero fun i _ ↦ h i

end Census

end Transition
