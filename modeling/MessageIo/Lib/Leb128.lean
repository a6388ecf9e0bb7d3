import Mathlib.Algebra.Group.Nat.Defs
import Mathlib.Data.List.Basic

/-!
# LEB128 variable-length integers

A number is written as bytes of seven bits each, lowest first; every byte but
the last has its high bit set.  `decode k` reads such a number off the front of
a byte string, giving up on one that does not end within `k` bytes, and reports
how many bytes the number took.

The facts collected here are those that make LEB128 usable as a frame header:
decoding undoes encoding whatever follows, it never looks past the byte that ends
the number, and it answers `none` on a number that is still incomplete.
-/

namespace Leb128

/-- The bytes of `n`, seven bits each, lowest first. -/
def encode (n : Nat) : List UInt8 :=
  if n < 128 then [UInt8.ofNat n] else UInt8.ofNat (n % 128 + 128) :: encode (n / 128)
termination_by n
decreasing_by omega

/-- The number at the front of a byte string and how many bytes it takes, if it
ends within `k` bytes. -/
def decode : Nat → List UInt8 → Option (Nat × Nat)
  | 0, _ => none
  | _ + 1, [] => none
  | k + 1, b :: bs =>
      if b.toNat < 128 then some (b.toNat, 1)
      else (decode k bs).map fun r => (b.toNat - 128 + 128 * r.1, r.2 + 1)

theorem encode_of_lt {n : Nat} (h : n < 128) : encode n = [UInt8.ofNat n] := by
  rw [encode, if_pos h]

theorem encode_of_ge {n : Nat} (h : 128 ≤ n) :
    encode n = UInt8.ofNat (n % 128 + 128) :: encode (n / 128) := by
  rw [encode, if_neg (by omega)]

/-- A number of more than one byte is at least 128. -/
theorem le_of_one_lt_length_encode {n : Nat} (h : 1 < (encode n).length) : 128 ≤ n := by
  by_contra hn
  rw [encode_of_lt (by omega)] at h
  simp at h

theorem toNat_ofNat_of_lt {n : Nat} (h : n < 256) : (UInt8.ofNat n).toNat = n := by
  rw [UInt8.toNat_ofNat']
  omega

theorem decode_cons_of_lt (k : Nat) {b : UInt8} (h : b.toNat < 128) (bs : List UInt8) :
    decode (k + 1) (b :: bs) = some (b.toNat, 1) := by
  rw [decode, if_pos h]

theorem decode_cons_of_ge (k : Nat) {b : UInt8} (h : 128 ≤ b.toNat) (bs : List UInt8) :
    decode (k + 1) (b :: bs) =
      (decode k bs).map fun r => (b.toNat - 128 + 128 * r.1, r.2 + 1) := by
  rw [decode, if_neg (by omega)]

/-- **Decoding undoes encoding**, whatever follows the number. -/
theorem decode_encode (k : Nat) {n : Nat} (h : n < 128 ^ (k + 1)) (rest : List UInt8) :
    decode (k + 1) (encode n ++ rest) = some (n, (encode n).length) := by
  have single : ∀ k : Nat, ∀ n < 128,
      decode (k + 1) (encode n ++ rest) = some (n, (encode n).length) := by
    intro k n hn
    have hb : (UInt8.ofNat n).toNat = n := toNat_ofNat_of_lt (by omega)
    rw [encode_of_lt hn, List.singleton_append, decode_cons_of_lt k (by omega), hb]
    rfl
  induction k generalizing n with
  | zero => exact single 0 n (by simpa using h)
  | succ k ih =>
      by_cases hn : n < 128
      · exact single (k + 1) n hn
      · have hb : (UInt8.ofNat (n % 128 + 128)).toNat = n % 128 + 128 :=
          toNat_ofNat_of_lt (by omega)
        have hq : n / 128 < 128 ^ (k + 1) := by
          rw [Nat.div_lt_iff_lt_mul (by omega)]
          calc n < 128 ^ (k + 1 + 1) := h
            _ = 128 ^ (k + 1) * 128 := Nat.pow_succ _ _
        have hval : n % 128 + 128 - 128 + 128 * (n / 128) = n := by omega
        rw [encode_of_ge (by omega), List.cons_append, decode_cons_of_ge (k + 1) (by omega),
          ih hq, hb, Option.map_some, hval, List.length_cons]

/-- A number none of whose bytes is its last is not decoded. -/
theorem decode_incomplete (k : Nat) {bs : List UInt8} (h : ∀ b ∈ bs, 128 ≤ b.toNat) :
    decode k bs = none := by
  induction bs generalizing k with
  | nil => cases k <;> rfl
  | cons b bs ih =>
      cases k with
      | zero => rfl
      | succ k =>
          rw [decode_cons_of_ge k (h b (List.mem_cons_self ..)),
            ih k fun x hx => h x (List.mem_cons_of_mem _ hx)]
          rfl

/-- A decoded number took between one and `k` bytes, all of them there. -/
theorem decode_used {k : Nat} {bs : List UInt8} {n u : Nat} (h : decode k bs = some (n, u)) :
    0 < u ∧ u ≤ k ∧ u ≤ bs.length := by
  induction bs generalizing k n u with
  | nil => cases k <;> cases h
  | cons b bs ih =>
      cases k with
      | zero => cases h
      | succ k =>
          by_cases hb : b.toNat < 128
          · rw [decode_cons_of_lt k hb] at h
            cases h
            simp
          · rw [decode_cons_of_ge k (by omega)] at h
            obtain ⟨r, hr, heq⟩ := Option.map_eq_some_iff.1 h
            obtain ⟨h₁, h₂, h₃⟩ := ih hr
            cases heq
            simp only [List.length_cons]
            omega

/-- Decoding looks at the bytes of the number only. -/
theorem decode_take_append {k : Nat} {bs : List UInt8} {n u : Nat}
    (h : decode k bs = some (n, u)) (more : List UInt8) :
    decode k (bs.take u ++ more) = some (n, u) := by
  induction bs generalizing k n u with
  | nil => cases k <;> cases h
  | cons b bs ih =>
      cases k with
      | zero => cases h
      | succ k =>
          by_cases hb : b.toNat < 128
          · rw [decode_cons_of_lt k hb] at h
            cases h
            exact decode_cons_of_lt k hb _
          · rw [decode_cons_of_ge k (by omega)] at h
            obtain ⟨⟨m, v⟩, hr, heq⟩ := Option.map_eq_some_iff.1 h
            cases heq
            rw [List.take_succ_cons, List.cons_append, decode_cons_of_ge k (by omega), ih hr,
              Option.map_some]

/-- Decoding reads at most `k` bytes. -/
theorem decode_take (k : Nat) (bs : List UInt8) : decode k (bs.take k) = decode k bs := by
  induction bs generalizing k with
  | nil => rw [List.take_nil]
  | cons b bs ih =>
      cases k with
      | zero => rfl
      | succ k =>
          rw [List.take_succ_cons]
          by_cases hb : b.toNat < 128
          · rw [decode_cons_of_lt k hb, decode_cons_of_lt k hb]
          · rw [decode_cons_of_ge k (by omega), decode_cons_of_ge k (by omega), ih]

end Leb128
