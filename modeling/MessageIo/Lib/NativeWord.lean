import Mathlib.Init

/-!
# Machine words and their bytes in memory

A word of `k` bytes lies in memory in one of two orders.  `byte e w i` is the byte at the address
`i` of the word `w`, and `ofBytes e f` is the word with the byte `f i` at the address `i`.

The order does not matter for what is done byte by byte (`byte_xor`).  A rotation by whole bytes
goes in the direction that the order demands, and then it turns the bytes in memory
(`byte_rotate`).
-/

namespace NativeWord

/-- The order of the bytes of a word in memory. -/
inductive ByteOrder where
  /-- The lowest byte comes first. -/
  | little
  /-- The highest byte comes first. -/
  | big
deriving DecidableEq, Repr

variable {k : Nat} {e : ByteOrder} {i n : Nat}

/-- The place of the byte at the address `i` in a word of `k` bytes, counted from the lowest. -/
def ByteOrder.place (e : ByteOrder) (k i : Nat) : Nat :=
  match e with
  | little => i
  | big => k - 1 - i

theorem ByteOrder.place_lt (h : i < k) : e.place k i < k := by
  cases e with
  | little => exact h
  | big =>
      rw [place]
      omega

/-- A place is the address of its address. -/
theorem ByteOrder.place_place (h : i < k) : e.place k (e.place k i) = i := by
  cases e with
  | little => rfl
  | big =>
      rw [place, place]
      omega

/-- The byte at an address. -/
def byte (e : ByteOrder) (w : BitVec (8 * k)) (i : Nat) : UInt8 :=
  ⟨w.extractLsb' (8 * e.place k i) 8⟩

/-- `to_ne_bytes` -/
def toBytes (e : ByteOrder) (w : BitVec (8 * k)) : List UInt8 := (List.range k).map (byte e w)

/-- The word of these bytes, the lowest first. -/
def ofLittle : (k : Nat) → (Nat → UInt8) → BitVec (8 * k)
  | 0, _ => 0
  | k + 1, f => ((f k).toBitVec ++ ofLittle k f).cast (by omega)

/-- `from_ne_bytes` -/
def ofBytes (e : ByteOrder) (f : Nat → UInt8) : BitVec (8 * k) := ofLittle k fun i ↦ f (e.place k i)

/-- `rotate_right`, or `rotate_left` if the highest byte comes first. -/
def rotate (e : ByteOrder) (w : BitVec (8 * k)) (n : Nat) : BitVec (8 * k) :=
  match e with
  | .little => w.rotateRight n
  | .big => w.rotateLeft n

@[simp] theorem length_toBytes (e : ByteOrder) (w : BitVec (8 * k)) : (toBytes e w).length = k := by
  rw [toBytes, List.length_map, List.length_range]

/-- Bytes are the same if their bits are. -/
theorem byte_eq_iff {w : BitVec (8 * k)} {b : UInt8} :
    byte e w i = b ↔ ∀ j < 8, w.getLsbD (8 * e.place k i + j) = b.toBitVec.getLsbD j := by
  rw [← UInt8.toBitVec_inj]
  constructor
  · rintro h j hj
    rw [← h, byte, BitVec.getLsbD_extractLsb', decide_eq_true hj, Bool.true_and]
  · intro h
    refine BitVec.eq_of_getLsbD_eq fun j hj ↦ ?_
    rw [byte, BitVec.getLsbD_extractLsb', decide_eq_true hj, Bool.true_and, h j hj]

theorem getLsbD_ofLittle (f : Nat → UInt8) {i : Nat} (hi : i < k) {j : Nat} (hj : j < 8) :
    (ofLittle k f).getLsbD (8 * i + j) = (f i).toBitVec.getLsbD j := by
  induction k with
  | zero => cases hi
  | succ k ih =>
      rw [ofLittle, BitVec.getLsbD_cast, BitVec.getLsbD_append]
      rcases Nat.lt_succ_iff_lt_or_eq.1 hi with hlt | rfl
      · rw [if_pos (by omega), ih hlt]
      · rw [if_neg (by omega), Nat.add_sub_cancel_left]

/-- **A word has the bytes it is made of.** -/
theorem byte_ofBytes (f : Nat → UInt8) (h : i < k) :
    byte e (ofBytes e f : BitVec (8 * k)) i = f i := by
  refine byte_eq_iff.2 fun j hj ↦ ?_
  rw [ofBytes, getLsbD_ofLittle _ (ByteOrder.place_lt h) hj, ByteOrder.place_place h]

/-- What is done byte by byte. -/
theorem byte_xor (w v : BitVec (8 * k)) (i : Nat) :
    byte e (w ^^^ v) i = byte e w i ^^^ byte e v i := by
  refine byte_eq_iff.2 fun j hj ↦ ?_
  have hw := byte_eq_iff.1 (rfl : byte e w i = _) j hj
  have hv := byte_eq_iff.1 (rfl : byte e v i = _) j hj
  rw [BitVec.getLsbD_xor, UInt8.toBitVec_xor, BitVec.getLsbD_xor, hw, hv]

/-- **A rotation by whole bytes turns the bytes in memory**, in both orders. -/
theorem byte_rotate (w : BitVec (8 * k)) (hn : n < k) (hi : i < k) :
    byte e (rotate e w (8 * n)) i = byte e w ((i + n) % k) := by
  refine byte_eq_iff.2 fun j hj ↦ ?_
  rw [← byte_eq_iff.1 (rfl : byte e w ((i + n) % k) = _) j hj]
  have hround : (i + n) % k = if i + n < k then i + n else i + n - k := by
    split
    · exact Nat.mod_eq_of_lt ‹_›
    · rw [Nat.mod_eq_sub_mod (by omega), Nat.mod_eq_of_lt (by omega)]
  rw [hround]
  cases e with
  | little =>
      show (w.rotateRight (8 * n)).getLsbD (8 * i + j) = w.getLsbD (8 * ite _ _ _ + j)
      rw [BitVec.getLsbD_rotateRight_of_lt (by omega)]
      by_cases hlow : i + n < k
      · rw [if_pos hlow, decide_eq_true (show 8 * i + j < 8 * k - 8 * n by omega), cond_true]
        congr 1
        omega
      · rw [if_neg hlow, decide_eq_false (show ¬ 8 * i + j < 8 * k - 8 * n by omega), cond_false,
          decide_eq_true (show 8 * i + j < 8 * k by omega), Bool.true_and]
        congr 1
        omega
  | big =>
      show (w.rotateLeft (8 * n)).getLsbD (8 * (k - 1 - i) + j) =
        w.getLsbD (8 * (k - 1 - ite _ _ _) + j)
      rw [BitVec.getLsbD_rotateLeft_of_le (by omega)]
      by_cases hlow : i + n < k
      · rw [if_pos hlow, decide_eq_false (show ¬ 8 * (k - 1 - i) + j < 8 * n by omega), cond_false,
          decide_eq_true (show 8 * (k - 1 - i) + j < 8 * k by omega), Bool.true_and]
        congr 1
        omega
      · rw [if_neg hlow, decide_eq_true (show 8 * (k - 1 - i) + j < 8 * n by omega), cond_true]
        congr 1
        omega

end NativeWord
