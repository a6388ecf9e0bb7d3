import Mathlib.Data.List.Basic

/-!
# Self-delimiting frames on a stream

A *framer* recognises the first frame of a stream and says how many symbols it
takes.  The one law it has to obey is that a recognised frame stays recognised,
with the same extent, when more symbols arrive behind it.  That alone makes the
greedy reading of a stream (`Framer.parse`) independent of how the stream was
cut: `parse_append` says that parsing `xs ++ ys` is parsing `xs` and then
parsing what `xs` left over, followed by `ys`.

Nothing here fixes what a symbol or a frame is.
-/

universe u v

namespace Framing

/-- A recogniser of the first frame of a stream. -/
structure Framer (α : Type u) (φ : Type v) where
  /-- The first frame, with the number of symbols it takes. -/
  next : List α → Option (φ × Nat)
  /-- A frame takes at least one symbol. -/
  next_pos : ∀ {xs f n}, next xs = some (f, n) → 0 < n
  /-- A frame takes no more symbols than there are. -/
  next_le : ∀ {xs f n}, next xs = some (f, n) → n ≤ xs.length
  /-- A frame does not depend on what follows it. -/
  next_append : ∀ {xs r}, next xs = some r → ∀ ys, next (xs ++ ys) = some r

namespace Framer

variable {α : Type u} {φ : Type v} (F : Framer α φ)

/-- The complete frames at the front of a stream, and what is left after them. -/
def parse (xs : List α) : List φ × List α :=
  match _h : F.next xs with
  | none => ([], xs)
  | some (f, n) =>
      let r := parse (xs.drop n)
      (f :: r.1, r.2)
termination_by xs.length
decreasing_by
  have hpos := F.next_pos _h
  have hle := F.next_le _h
  simp only [List.length_drop]
  omega

/-- The complete frames at the front of a stream. -/
def frames (xs : List α) : List φ := (F.parse xs).1

/-- The symbols of a stream that no complete frame covers yet. -/
def pending (xs : List α) : List α := (F.parse xs).2

variable {F}

theorem parse_of_none {xs : List α} (h : F.next xs = none) : F.parse xs = ([], xs) := by
  rw [parse]
  split
  · rfl
  · rename_i h'
    rw [h] at h'
    cases h'

theorem parse_of_some {xs : List α} {f : φ} {n : Nat} (h : F.next xs = some (f, n)) :
    F.parse xs = (f :: F.frames (xs.drop n), F.pending (xs.drop n)) := by
  rw [parse]
  split
  · rename_i h'
    rw [h] at h'
    cases h'
  · rename_i h'
    rw [h] at h'
    cases h'
    rfl

@[simp] theorem next_nil : F.next [] = none := by
  cases h : F.next [] with
  | none => rfl
  | some r =>
      have hpos := F.next_pos h
      have hle := F.next_le h
      simp only [List.length_nil] at hle
      omega

@[simp] theorem parse_nil : F.parse [] = ([], []) := parse_of_none next_nil

@[simp] theorem frames_nil : F.frames [] = [] := by rw [frames, parse_nil]

@[simp] theorem pending_nil : F.pending [] = [] := by rw [pending, parse_nil]

theorem frames_of_none {xs : List α} (h : F.next xs = none) : F.frames xs = [] := by
  rw [frames, parse_of_none h]

theorem pending_of_none {xs : List α} (h : F.next xs = none) : F.pending xs = xs := by
  rw [pending, parse_of_none h]

theorem frames_of_some {xs : List α} {f : φ} {n : Nat} (h : F.next xs = some (f, n)) :
    F.frames xs = f :: F.frames (xs.drop n) := by rw [frames, parse_of_some h]

theorem pending_of_some {xs : List α} {f : φ} {n : Nat} (h : F.next xs = some (f, n)) :
    F.pending xs = F.pending (xs.drop n) := by rw [pending, parse_of_some h]

variable (F)

/-- Induction along the frames of a stream. -/
theorem parse_induction {P : List α → Prop} (stop : ∀ xs, F.next xs = none → P xs)
    (step : ∀ xs f n, F.next xs = some (f, n) → P (xs.drop n) → P xs) (xs : List α) : P xs := by
  induction hl : xs.length using Nat.strongRecOn generalizing xs with
  | ind l ih =>
      cases h : F.next xs with
      | none => exact stop xs h
      | some r =>
          obtain ⟨f, n⟩ := r
          have hpos := F.next_pos h
          have hle := F.next_le h
          exact step xs f n h (ih _ (by rw [List.length_drop]; omega) _ rfl)

/-- What is left over holds no complete frame. -/
theorem next_pending (xs : List α) : F.next (F.pending xs) = none := by
  induction xs using F.parse_induction with
  | stop xs h => rw [pending_of_none h, h]
  | step xs f n h ih => rwa [pending_of_some h]

/-- **Parsing does not see where a stream was cut.**  The frames of `xs ++ ys`
are those of `xs`, then those of the rest of `xs` with `ys` behind it. -/
theorem parse_append (xs ys : List α) :
    F.parse (xs ++ ys) =
      (F.frames xs ++ F.frames (F.pending xs ++ ys), F.pending (F.pending xs ++ ys)) := by
  induction xs using F.parse_induction with
  | stop xs h => rw [frames_of_none h, pending_of_none h]; rfl
  | step xs f n h ih =>
      have hdrop : (xs ++ ys).drop n = xs.drop n ++ ys :=
        List.drop_append_of_le_length (F.next_le h)
      rw [parse_of_some (F.next_append h ys), frames_of_some h, pending_of_some h, frames,
        pending, hdrop, ih]
      rfl

theorem frames_append (xs ys : List α) :
    F.frames (xs ++ ys) = F.frames xs ++ F.frames (F.pending xs ++ ys) := by
  rw [frames, parse_append]

theorem pending_append (xs ys : List α) :
    F.pending (xs ++ ys) = F.pending (F.pending xs ++ ys) := by
  rw [pending, parse_append]

/-- When every frame remembers the symbols it was read from, parsing loses none:
the frames and the rest spell the stream. -/
theorem flatMap_frames_append_pending (raw : φ → List α)
    (hraw : ∀ xs f n, F.next xs = some (f, n) → raw f = xs.take n) (xs : List α) :
    (F.frames xs).flatMap raw ++ F.pending xs = xs := by
  induction xs using F.parse_induction with
  | stop xs h => rw [frames_of_none h, pending_of_none h]; rfl
  | step xs f n h ih =>
      rw [frames_of_some h, pending_of_some h, List.flatMap_cons, List.append_assoc, ih,
        hraw xs f n h, List.take_append_drop]

/-- Every frame of a stream was recognised at the front of some rest of it. -/
theorem exists_next_of_mem_frames {xs : List α} {f : φ} (hf : f ∈ F.frames xs) :
    ∃ ys n, F.next ys = some (f, n) := by
  induction xs using F.parse_induction with
  | stop xs h => rw [frames_of_none h] at hf; cases hf
  | step xs g n h ih =>
      rw [frames_of_some h] at hf
      rcases List.mem_cons.1 hf with rfl | hf
      · exact ⟨xs, n, h⟩
      · exact ih hf

end Framer

end Framing
