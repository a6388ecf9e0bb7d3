import MessageIo.Lib.NativeWord
import MessageIo.Protocol.Frame

/-!
# Masking by words (`adapters/ws/protocol/frame/mask.rs`)

`apply_mask_fast32` has a buffer cut into a prefix, words of 32 bits and a suffix, as it lies in
memory (`Aligned`).  The words are masked as words: the mask is read as one, in the byte order of
the machine, and turned by as many bytes as the prefix has over.

`applyMaskFast32` of `Frame` does the same on bytes, and `Aligned.applyMaskFast32_eq` says that
the two agree.
-/

namespace MessageIo

namespace Ws

open NativeWord (ByteOrder)

/-- **A buffer as `align_to_mut` may cut it**: the three parts are the buffer. -/
structure Aligned (e : ByteOrder) (buf : Bytes) where
  pre : Bytes
  words : List (BitVec 32)
  suffix : Bytes
  memory : pre ++ words.flatMap (NativeWord.toBytes (k := 4) e) ++ suffix = buf

namespace Mask

variable {e : ByteOrder}

/-- `u32::from_ne_bytes` -/
def toWord (e : ByteOrder) (mask : Mask) : BitVec 32 := NativeWord.ofBytes (k := 4) e mask.byte

/-- `to_ne_bytes` -/
def ofWord (e : ByteOrder) (w : BitVec 32) : Mask :=
  ⟨NativeWord.byte (k := 4) e w 0, NativeWord.byte (k := 4) e w 1, NativeWord.byte (k := 4) e w 2,
    NativeWord.byte (k := 4) e w 3⟩

/-- The bytes of a word are those of its mask. -/
theorem byte_ofWord (w : BitVec 32) {i : Nat} (h : i < 4) :
    (ofWord e w).byte i = NativeWord.byte (k := 4) e w i := by
  rcases i with _ | _ | _ | _ | i
  · rfl
  · rfl
  · rfl
  · rfl
  · omega

/-- Masks are the same if their four bytes are. -/
theorem ext_byte {m m' : Mask} (h : ∀ i < 4, m.byte i = m'.byte i) : m = m' := by
  obtain ⟨a, b, c, d⟩ := m
  obtain ⟨a', b', c', d'⟩ := m'
  obtain rfl : a = a' := h 0 (by decide)
  obtain rfl : b = b' := h 1 (by decide)
  obtain rfl : c = c' := h 2 (by decide)
  obtain rfl : d = d' := h 3 (by decide)
  rfl

@[simp] theorem ofWord_toWord (mask : Mask) : ofWord e (mask.toWord e) = mask :=
  ext_byte fun i hi ↦ by rw [byte_ofWord _ hi, toWord, NativeWord.byte_ofBytes _ hi]

/-- **A mask that is turned as a word** begins with another byte, in both orders. -/
theorem ofWord_rotate (mask : Mask) {n : Nat} (hn : n < 4) :
    ofWord e (NativeWord.rotate (k := 4) e (mask.toWord e) (8 * n)) = mask.rotate n := by
  refine ext_byte fun i hi ↦ ?_
  have hlt : (i + n) % 4 < 4 := Nat.mod_lt _ (by decide)
  rw [byte_ofWord _ hi, NativeWord.byte_rotate _ hn hi, toWord, NativeWord.byte_ofBytes _ hlt,
    byte_rotate, byte, byte.eq_def mask (n + i), Nat.mod_mod, Nat.add_comm]

end Mask

namespace Aligned

variable {e : ByteOrder} {buf : Bytes}

/-- The mask behind the prefix. -/
def turned (e : ByteOrder) (pre : Bytes) (mask : Mask) : BitVec 32 :=
  let head := pre.length % 4
  if 0 < head then NativeWord.rotate (k := 4) e (mask.toWord e) (8 * head) else mask.toWord e

/-- Faster version of `apply_mask()` which operates on 4-byte blocks. -/
def applyMaskFast32 (cut : Aligned e buf) (mask : Mask) : Bytes :=
  let maskU32 := turned e cut.pre mask
  applyMaskFallback cut.pre mask ++
    (cut.words.map (· ^^^ maskU32)).flatMap (NativeWord.toBytes (k := 4) e) ++
      applyMaskFallback cut.suffix (.ofWord e maskU32)

theorem ofWord_turned (pre : Bytes) (mask : Mask) :
    Mask.ofWord e (turned e pre mask) =
      if 0 < pre.length % 4 then mask.rotate (pre.length % 4) else mask := by
  rw [turned]
  by_cases hpos : 0 < pre.length % 4
  · rw [if_pos hpos, if_pos hpos, Mask.ofWord_rotate mask (Nat.mod_lt _ (by decide))]
  · rw [if_neg hpos, if_neg hpos, Mask.ofWord_toWord]

/-- Words that are masked are bytes that are masked. -/
theorem toBytes_xor (words : List (BitVec 32)) (m : BitVec 32) :
    (words.map (· ^^^ m)).flatMap (NativeWord.toBytes (k := 4) e) =
      applyMaskWords (.ofWord e m) (words.flatMap (NativeWord.toBytes (k := 4) e)) := by
  induction words with
  | nil => rfl
  | cons w words ih =>
      rw [List.map_cons, List.flatMap_cons, List.flatMap_cons, ih]
      have hbytes : NativeWord.toBytes (k := 4) e (w ^^^ m) =
          [NativeWord.byte (k := 4) e w 0 ^^^ NativeWord.byte (k := 4) e m 0,
            NativeWord.byte (k := 4) e w 1 ^^^ NativeWord.byte (k := 4) e m 1,
            NativeWord.byte (k := 4) e w 2 ^^^ NativeWord.byte (k := 4) e m 2,
            NativeWord.byte (k := 4) e w 3 ^^^ NativeWord.byte (k := 4) e m 3] := by
        rw [← NativeWord.byte_xor, ← NativeWord.byte_xor, ← NativeWord.byte_xor,
          ← NativeWord.byte_xor]
        rfl
      rw [hbytes]
      rfl

/-- The words take a multiple of four bytes. -/
theorem length_words (words : List (BitVec 32)) :
    (words.flatMap (NativeWord.toBytes (k := 4) e)).length % 4 = 0 := by
  induction words with
  | nil => rfl
  | cons w words ih =>
      rw [List.flatMap_cons, List.length_append, NativeWord.length_toBytes, Nat.add_mod_left, ih]

/-- **Masking by words is masking byte by byte**, for the three parts. -/
theorem applyMaskFast32_eq (cut : Aligned e buf) (mask : Mask) :
    cut.applyMaskFast32 mask =
      Ws.applyMaskFast32 cut.pre (cut.words.flatMap (NativeWord.toBytes (k := 4) e)) cut.suffix
        mask := by
  rw [applyMaskFast32, Ws.applyMaskFast32, toBytes_xor, ofWord_turned]

/-- Every cut into a prefix, blocks of four bytes and a suffix is one of a buffer in memory. -/
theorem exists_of_split (e : ByteOrder) (pre : Bytes) {middle : Bytes} (suffix : Bytes)
    (h : middle.length % 4 = 0) :
    ∃ cut : Aligned e (pre ++ middle ++ suffix), cut.pre = pre ∧ cut.suffix = suffix := by
  have hwords : ∃ words : List (BitVec 32),
      words.flatMap (NativeWord.toBytes (k := 4) e) = middle := by
    induction middle using applyMaskWords.induct with
    | case1 a b c d rest ih =>
        obtain ⟨words, hwords⟩ := ih (by simp only [List.length_cons] at h; omega)
        refine ⟨Mask.toWord e ⟨a, b, c, d⟩ :: words, ?_⟩
        have hbyte : ∀ i < 4, NativeWord.byte (k := 4) e (Mask.toWord e ⟨a, b, c, d⟩) i =
            (⟨a, b, c, d⟩ : Mask).byte i := fun i hi ↦ NativeWord.byte_ofBytes _ hi
        rw [List.flatMap_cons, hwords]
        show NativeWord.byte (k := 4) e _ 0 :: NativeWord.byte (k := 4) e _ 1 ::
          NativeWord.byte (k := 4) e _ 2 :: NativeWord.byte (k := 4) e _ 3 :: rest = _
        rw [hbyte 0 (by decide), hbyte 1 (by decide), hbyte 2 (by decide), hbyte 3 (by decide)]
        rfl
    | case2 middle hmiddle =>
        rcases middle with _ | ⟨a, _ | ⟨b, _ | ⟨c, _ | ⟨d, rest⟩⟩⟩⟩
        · exact ⟨[], rfl⟩
        · cases h
        · cases h
        · cases h
        · exact absurd rfl (hmiddle a b c d rest)
  obtain ⟨words, hwords⟩ := hwords
  exact ⟨⟨pre, words, suffix, by rw [hwords]⟩, rfl, rfl⟩

/-- **However a buffer lies in memory, masking by words is masking byte by byte**, with the byte at
`i` masked by `mask[i & 3]`; and what has been masked is restored by the same mask, however it
lies in memory then. -/
theorem fast32_is_fallback (cut : Aligned e buf) (mask : Mask) :
    cut.applyMaskFast32 mask = applyMaskFallback buf mask ∧
      (∀ i, (cut.applyMaskFast32 mask)[i]? = buf[i]?.map (· ^^^ mask.byte i)) ∧
      ∀ (e' : ByteOrder) (cut' : Aligned e' (cut.applyMaskFast32 mask)),
        cut'.applyMaskFast32 mask = buf := by
  have hfast : ∀ {e : ByteOrder} {buf : Bytes} (cut : Aligned e buf),
      cut.applyMaskFast32 mask = applyMaskFallback buf mask := by
    intro e buf cut
    have heq := Ws.applyMaskFast32_eq cut.pre cut.suffix mask (length_words (e := e) cut.words)
    rw [cut.memory] at heq
    rw [applyMaskFast32_eq, heq]
    rfl
  refine ⟨hfast cut, fun i ↦ ?_, fun e' cut' ↦ ?_⟩
  · rw [hfast cut, applyMaskFallback, List.getElem?_mapIdx]
  · rw [hfast cut', hfast cut]
    exact applyMask_applyMask buf mask

end Aligned

end Ws

end MessageIo
