import Mathlib.Order.OrderIsoNat
import MessageIo.Lib.Transition

/-!
# Ledgers and progress of runs

Two rules for the runs of a state machine in which many threads take turns.

* `collect step f s as` is what the actions of a run yield, one after the other.  What every
  step keeps, of the state and of what has been yielded so far, the run keeps
  (`run_collect`): with what has been taken from a queue and what is still there in the
  state, and what has been put into it yielded, nothing is lost and the order is kept.
* `Forever step s as` is a run that never ends.  A measure that a thread makes smaller whenever
  it acts, and that nobody else makes larger, lets it act finitely often (`finally_quiet`).  If
  it is scheduled as often as it wants, then in the end it wants no more (`finally_done`).
-/

universe u v w

namespace Transition

variable {σ : Type u} {α : Type v}

/-! ## Ledgers -/

section Ledger

variable {β : Type w} {step : σ → α → Option σ}

/-- What the actions of a run yield. -/
def collect (step : σ → α → Option σ) (f : σ → α → List β) (s : σ) : List α → List β
  | [] => []
  | a :: as => f s a ++ (step s a).elim [] fun s' ↦ collect step f s' as

/-- **What every step keeps**, of the state and of what the actions have yielded so far, the run
keeps. -/
theorem run_collect {P : List β → σ → Prop} {f : σ → α → List β}
    (hstep : ∀ {bs s a s'}, P bs s → step s a = some s' → P (bs ++ f s a) s')
    {as : List α} {s s' : σ} (bs : List β) (hinit : P bs s) (h : run step s as = some s') :
    P (bs ++ collect step f s as) s' := by
  induction as generalizing s bs with
  | nil =>
      cases h
      rwa [collect, List.append_nil]
  | cons a as ih =>
      obtain ⟨s₁, hs₁, h⟩ := Option.bind_eq_some_iff.1 h
      rw [collect, hs₁, Option.elim_some, ← List.append_assoc]
      exact ih _ (hstep hinit hs₁) h

end Ledger

/-! ## Progress -/

section Progress

variable {step : σ → α → Option σ} {s : ℕ → σ} {as : ℕ → α}

/-- A run that never ends. -/
def Forever (step : σ → α → Option σ) (s : ℕ → σ) (as : ℕ → α) : Prop :=
  ∀ n, step (s n) (as n) = some (s (n + 1))

/-- What every step keeps holds from then on. -/
theorem Forever.keeps {P : σ → Prop} (h : Forever step s as)
    (hstep : ∀ {s a s'}, P s → step s a = some s' → P s') {n : ℕ} (hn : P (s n)) {k : ℕ}
    (hk : n ≤ k) : P (s k) := by
  induction hk with
  | refl => exact hn
  | step _ ih => exact hstep ih (h _)

variable {ω : Type w} [PartialOrder ω] [WellFoundedLT ω]

/-- **Whoever makes a measure smaller each time it acts** acts no more in the end, if nobody else
makes the measure larger. -/
theorem finally_quiet (μ : σ → ω) (acts : ℕ → Prop) (start : ℕ)
    (hacts : ∀ n, start ≤ n → acts n → μ (s (n + 1)) < μ (s n))
    (hothers : ∀ n, start ≤ n → ¬ acts n → μ (s (n + 1)) = μ (s n)) :
    ∃ n, start ≤ n ∧ ∀ k, n ≤ k → ¬ acts k := by
  have hle : ∀ n, start ≤ n → μ (s (n + 1)) ≤ μ (s n) := by
    intro n hn
    by_cases h : acts n
    · exact (hacts n hn h).le
    · exact (hothers n hn h).le
  have hanti : Antitone fun n ↦ μ (s (start + n)) :=
    antitone_nat_of_succ_le fun n ↦ hle (start + n) (Nat.le_add_right _ _)
  obtain ⟨n, hn⟩ := WellFoundedLT.antitone_chain_condition hanti
  refine ⟨start + n, Nat.le_add_right _ _, fun k hk h ↦ ?_⟩
  obtain ⟨j, rfl⟩ := Nat.exists_eq_add_of_le hk
  have hhere := hn (n + j) (Nat.le_add_right _ _)
  have hnext := hn (n + j + 1) (by omega)
  have hlt := hacts (start + n + j) (by omega) h
  simp only [Nat.add_assoc] at hhere hnext hlt
  rw [← hnext, ← hhere] at hlt
  exact lt_irrefl _ hlt

/-- **If it is scheduled as often as it wants**, then it wants no more in the end. -/
theorem finally_done (μ : σ → ω) (acts : ℕ → Prop) (wants : σ → Prop) (start : ℕ)
    (hacts : ∀ n, start ≤ n → acts n → μ (s (n + 1)) < μ (s n))
    (hothers : ∀ n, start ≤ n → ¬ acts n → μ (s (n + 1)) = μ (s n))
    (hwants : ∀ n, start ≤ n → ¬ acts n → ¬ wants (s n) → ¬ wants (s (n + 1)))
    (hfair : ∀ n, ∃ k, n ≤ k ∧ (acts k ∨ ¬ wants (s k))) :
    ∃ n, start ≤ n ∧ ∀ k, n ≤ k → ¬ wants (s k) := by
  obtain ⟨n, hn, hquiet⟩ := finally_quiet μ acts start hacts hothers
  obtain ⟨k, hk, hdone⟩ := hfair n
  have hnot : ¬ wants (s k) := hdone.resolve_left (hquiet k hk)
  refine ⟨k, hn.trans hk, fun j hj ↦ ?_⟩
  induction hj with
  | refl => exact hnot
  | @step j hj ih =>
      exact hwants j (hn.trans (hk.trans hj)) (hquiet j (hk.trans hj)) ih

end Progress

end Transition
