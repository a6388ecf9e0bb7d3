import Mathlib.Logic.Function.Basic

/-!
# Shared values

A heap of values that are shared by counting references to them.  A value is put into a cell of
its own, with one reference; a reference may be shared, which makes one more; and when the last
one is dropped, the value comes out and the cell is empty.  Cells are not used again.
-/

universe u

namespace Shared

variable {α : Type u}

/-- A value, and how many references there are beside the first one. -/
structure Cell (α : Type u) where
  value : α
  others : Nat

/-- Cells, and the name of the next one. -/
structure Heap (α : Type u) where
  cells : Nat → Option (Cell α)
  next : Nat

namespace Heap

def empty : Heap α := ⟨fun _ ↦ none, 0⟩

/-- The value that a reference refers to. -/
def get (h : Heap α) (p : Nat) : Option α := (h.cells p).map Cell.value

/-- The number of references. -/
def count (h : Heap α) (p : Nat) : Nat := ((h.cells p).map fun c ↦ c.others + 1).getD 0

/-- A new value, and the reference to it. -/
def alloc (h : Heap α) (a : α) : Nat × Heap α :=
  (h.next, ⟨Function.update h.cells h.next (some ⟨a, 0⟩), h.next + 1⟩)

/-- One more reference. -/
def share (h : Heap α) (p : Nat) : Heap α :=
  { h with
    cells := Function.update h.cells p ((h.cells p).map fun c ↦ ⟨c.value, c.others + 1⟩) }

/-- One reference less; the value, if it was the last. -/
def drop (h : Heap α) (p : Nat) : Option α × Heap α :=
  match h.cells p with
  | none => (none, h)
  | some ⟨a, 0⟩ => (some a, { h with cells := Function.update h.cells p none })
  | some ⟨a, n + 1⟩ => (none, { h with cells := Function.update h.cells p (some ⟨a, n⟩) })

variable {h : Heap α} {p q : Nat}

theorem count_eq_zero_iff : h.count p = 0 ↔ h.get p = none := by
  rw [count, get]
  cases h.cells p with
  | none => exact ⟨fun _ ↦ rfl, fun _ ↦ rfl⟩
  | some c => exact ⟨fun h ↦ absurd h (Nat.succ_ne_zero _), nofun⟩

/-! ## New values -/

@[simp] theorem fst_alloc (h : Heap α) (a : α) : (h.alloc a).1 = h.next := rfl

@[simp] theorem next_alloc (h : Heap α) (a : α) : (h.alloc a).2.next = h.next + 1 := rfl

theorem get_alloc (h : Heap α) (a : α) (p : Nat) :
    (h.alloc a).2.get p = if p = h.next then some a else h.get p := by
  rw [get, alloc]
  simp only [Function.update_apply]
  split
  · rfl
  · rfl

theorem count_alloc (h : Heap α) (a : α) (p : Nat) :
    (h.alloc a).2.count p = if p = h.next then 1 else h.count p := by
  rw [count, alloc]
  simp only [Function.update_apply]
  split
  · rfl
  · rfl

/-! ## More references -/

@[simp] theorem next_share (h : Heap α) (p : Nat) : (h.share p).next = h.next := rfl

@[simp] theorem get_share (h : Heap α) (p q : Nat) : (h.share p).get q = h.get q := by
  rw [get, share, get]
  simp only [Function.update_apply]
  split
  · rename_i hq
    rw [hq]
    cases h.cells p with
    | none => rfl
    | some c => rfl
  · rfl

theorem count_share (hp : h.get p ≠ none) (q : Nat) :
    (h.share p).count q = if q = p then h.count p + 1 else h.count q := by
  rw [count, share]
  simp only [Function.update_apply]
  split
  · rw [count]
    rw [get] at hp
    cases hcell : h.cells p with
    | none => exact absurd (by rw [hcell]; rfl) hp
    | some c => rfl
  · rfl

/-! ## Fewer references -/

@[simp] theorem next_drop (h : Heap α) (p : Nat) : (h.drop p).2.next = h.next := by
  rw [drop]
  split
  · rfl
  · rfl
  · rfl

/-- **The value comes out with the last reference.** -/
theorem fst_drop (h : Heap α) (p : Nat) :
    (h.drop p).1 = if h.count p = 1 then h.get p else none := by
  rw [drop, count, get]
  rcases h.cells p with _ | ⟨a, _ | n⟩
  · rfl
  · rfl
  · rfl

theorem count_drop (h : Heap α) (p q : Nat) :
    (h.drop p).2.count q = if q = p then h.count p - 1 else h.count q := by
  by_cases hq : q = p
  · rw [if_pos hq, hq, drop, count]
    rcases hcell : h.cells p with _ | ⟨a, _ | n⟩
    · simp only [count, hcell]
      rfl
    · simp only [count, Function.update_self, hcell]
      rfl
    · simp only [count, Function.update_self, hcell]
      rfl
  · rw [if_neg hq, drop]
    rcases h.cells p with _ | ⟨a, _ | n⟩
    · rfl
    · simp only [count, Function.update_of_ne hq]
    · simp only [count, Function.update_of_ne hq]

/-- A value stays as long as there is a reference to it. -/
theorem get_drop (h : Heap α) (p q : Nat) :
    (h.drop p).2.get q = if q = p ∧ h.count p = 1 then none else h.get q := by
  by_cases hq : q = p
  · rw [hq, drop, count]
    rcases hcell : h.cells p with _ | ⟨a, _ | n⟩
    · simp only [get, hcell]
      rfl
    · simp only [get, Function.update_self]
      rfl
    · simp only [get, Function.update_self, hcell]
      rfl
  · rw [if_neg fun h ↦ hq h.1, drop]
    rcases h.cells p with _ | ⟨a, _ | n⟩
    · rfl
    · simp only [get, Function.update_of_ne hq]
    · simp only [get, Function.update_of_ne hq]

end Heap

end Shared
