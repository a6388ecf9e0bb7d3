import Mathlib.Data.Nat.Basic
import MessageIo.Lib.Framing
import MessageIo.Util.Encoding

/-!
# What the decoder does to a stream

A stream of messages has an obvious reading, `parse`: take the frame at the
front, go on behind it, keep what does not make a frame.  This file compares
`Decoder.feed`, which sees the stream in chunks, with that reading.

The two agree as long as no cut falls badly.  A cut matters only when it falls
inside a header, that is when bytes are pending whose size cannot be read yet.
Then `store_and_decoded_data` pulls in bytes up to a total of ten before it looks
at the size again, and two things can go wrong.

* The header turns out shorter than ten bytes and its frame ends before the
  pulled bytes do.  The decoder computes the remaining payload as a negative
  number.
* Ten bytes hold no complete header.  The decoder then drops what follows them
  (`Jams`), or, if it was already holding more than ten, computes the room left
  for the header as a negative number.

`CutOk` is the condition, on the bytes alone, that neither happens.  For the
stream of an honest sender it holds at every cut, because a header that was cut
has at least two bytes and so announces at least 128.
-/

namespace MessageIo

open Framing

/-- A frame as it was read: the bytes of its header, and its message. -/
structure Frame where
  header : Bytes
  payload : Bytes
deriving DecidableEq, Repr

/-- The bytes of a frame on the stream. -/
def Frame.raw (f : Frame) : Bytes := f.header ++ f.payload

variable {V : VarInt}

/-! ## Facts about sizes -/

theorem decodeSize_take_append {bs : Bytes} {size used : Nat}
    (h : decodeSize V bs = some (size, used)) (more : Bytes) :
    decodeSize V (bs.take used ++ more) = some (size, used) := V.decodeVar_take_append h more

theorem decodeSize_append {bs : Bytes} {r : Nat × Nat} (h : decodeSize V bs = some r)
    (more : Bytes) : decodeSize V (bs ++ more) = some r := by
  have h' := decodeSize_take_append h (bs.drop r.2 ++ more)
  rwa [← List.append_assoc, List.take_append_drop] at h'

theorem decodeSize_used_le {bs : Bytes} {size used : Nat}
    (h : decodeSize V bs = some (size, used)) :
    used ≤ bs.length := V.decodeVar_le h

theorem decodeSize_used_le_max {bs : Bytes} {size used : Nat}
    (h : decodeSize V bs = some (size, used)) : used ≤ maxEncodedSize := by
  have h' : V.decodeVar (bs.take maxEncodedSize) = some (size, used) := by
    rw [V.decodeVar_take]
    exact h
  refine le_trans (V.decodeVar_le h') ?_
  rw [List.length_take]
  exact min_le_left _ _

theorem decodeSize_take (bs : Bytes) : decodeSize V (bs.take maxEncodedSize) = decodeSize V bs :=
  V.decodeVar_take bs

/-- Ten bytes without a complete size will not get one. -/
theorem decodeSize_append_of_none {bs : Bytes} (h : decodeSize V bs = none)
    (hlen : maxEncodedSize ≤ bs.length) (more : Bytes) : decodeSize V (bs ++ more) = none := by
  rw [← decodeSize_take, List.take_append_of_le_length hlen, decodeSize_take, h]

@[simp] theorem decodeSize_nil : decodeSize V [] = none := by
  cases h : decodeSize V [] with
  | none => rfl
  | some r =>
      have hpos := V.decodeVar_pos h
      have hle := V.decodeVar_le h
      simp only [List.length_nil] at hle
      omega

/-! ## The reading of a stream -/

variable (V)

/-- The frame at the front of a stream, with the number of bytes it takes. -/
def nextFrame (bs : Bytes) : Option (Frame × Nat) :=
  (decodeSize V bs).bind fun r =>
    if r.2 + r.1 ≤ bs.length then
      some (⟨bs.take r.2, (bs.drop r.2).take r.1⟩, r.2 + r.1)
    else none

variable {V}

theorem nextFrame_eq_some {bs : Bytes} {f : Frame} {n : Nat} :
    nextFrame V bs = some (f, n) ↔
      ∃ size used, decodeSize V bs = some (size, used) ∧ used + size ≤ bs.length ∧
        f = ⟨bs.take used, (bs.drop used).take size⟩ ∧ n = used + size := by
  constructor
  · intro h
    obtain ⟨⟨size, used⟩, hs, h⟩ := Option.bind_eq_some_iff.1 h
    split at h
    · rename_i hle
      cases h
      exact ⟨size, used, hs, hle, rfl, rfl⟩
    · cases h
  · rintro ⟨size, used, hs, hle, rfl, rfl⟩
    rw [nextFrame, hs, Option.bind_some, if_pos hle]

theorem nextFrame_eq_none_of_size_none {bs : Bytes} (h : decodeSize V bs = none) :
    nextFrame V bs = none := by rw [nextFrame, h, Option.bind_none]

/-- The frames of length-prefixed messages. -/
def framer (V : VarInt) : Framer UInt8 Frame where
  next := nextFrame V
  next_pos h := by
    obtain ⟨size, used, hs, -, -, rfl⟩ := nextFrame_eq_some.1 h
    exact Nat.add_pos_left (V.decodeVar_pos hs) size
  next_le h := by
    obtain ⟨size, used, -, hle, -, rfl⟩ := nextFrame_eq_some.1 h
    exact hle
  next_append {bs r} h ys := by
    obtain ⟨f, n⟩ := r
    obtain ⟨size, used, hs, hle, rfl, rfl⟩ := nextFrame_eq_some.1 h
    have hused : used ≤ bs.length := decodeSize_used_le hs
    have hpayload : size ≤ (bs.drop used).length := by rw [List.length_drop]; omega
    refine nextFrame_eq_some.2 ⟨size, used, decodeSize_append hs ys, ?_, ?_, rfl⟩
    · rw [List.length_append]
      omega
    · rw [List.take_append_of_le_length hused, List.drop_append_of_le_length hused,
        List.take_append_of_le_length hpayload]

theorem framer_next (bs : Bytes) : (framer V).next bs = nextFrame V bs := rfl

/-- A frame remembers exactly the bytes it was read from. -/
theorem raw_eq_take {bs : Bytes} {f : Frame} {n : Nat} (h : nextFrame V bs = some (f, n)) :
    f.raw = bs.take n := by
  obtain ⟨size, used, hs, hle, rfl, rfl⟩ := nextFrame_eq_some.1 h
  rw [Frame.raw, List.take_add]

/-- The messages of a stream. -/
def messages (V : VarInt) (bs : Bytes) : List Bytes := ((framer V).frames bs).map Frame.payload

/-- The bytes of a stream that are not yet a message. -/
def pending (V : VarInt) (bs : Bytes) : Bytes := (framer V).pending bs

theorem messages_append (xs ys : Bytes) :
    messages V (xs ++ ys) = messages V xs ++ messages V (pending V xs ++ ys) := by
  rw [messages, Framer.frames_append, List.map_append]
  rfl

theorem pending_append (xs ys : Bytes) : pending V (xs ++ ys) = pending V (pending V xs ++ ys) :=
  Framer.pending_append _ xs ys

theorem nextFrame_pending (xs : Bytes) : nextFrame V (pending V xs) = none :=
  (framer V).next_pending xs

theorem messages_of_nextFrame_none {bs : Bytes} (h : nextFrame V bs = none) :
    messages V bs = [] := by rw [messages, Framer.frames_of_none h, List.map_nil]

theorem pending_of_nextFrame_none {bs : Bytes} (h : nextFrame V bs = none) :
    pending V bs = bs := Framer.pending_of_none h

theorem messages_of_nextFrame_some {bs : Bytes} {f : Frame} {n : Nat}
    (h : nextFrame V bs = some (f, n)) : messages V bs = f.payload :: messages V (bs.drop n) := by
  rw [messages, Framer.frames_of_some h, List.map_cons]
  rfl

theorem pending_of_nextFrame_some {bs : Bytes} {f : Frame} {n : Nat}
    (h : nextFrame V bs = some (f, n)) : pending V bs = pending V (bs.drop n) :=
  Framer.pending_of_some h

@[simp] theorem messages_nil : messages V [] = [] := by
  rw [messages, Framer.frames_nil, List.map_nil]

@[simp] theorem pending_nil : pending V [] = [] := Framer.pending_nil

/-! ## The direct path -/

namespace Decoder

theorem nextMessage_eq (bs : Bytes) :
    nextMessage V bs = .ok ((nextFrame V bs).map fun r => (r.1.payload, bs.drop r.2)) := by
  unfold nextMessage nextFrame
  cases hs : decodeSize V bs with
  | none => rfl
  | some r =>
      obtain ⟨size, used⟩ := r
      have hused : used ≤ bs.length := decodeSize_used_le hs
      simp only [sliceFrom_of_le hused, bind, Except.bind, Option.bind_some, pure, Except.pure]
      by_cases hsize : size ≤ (bs.drop used).length
      · have hle : used + size ≤ bs.length := by rw [List.length_drop] at hsize; omega
        rw [if_pos hsize, if_pos hle, splitAt_of_le hsize]
        simp [List.drop_drop]
      · have hle : ¬ used + size ≤ bs.length := by rw [List.length_drop] at hsize; omega
        rw [if_neg hsize, if_neg hle]
        rfl

/-- `try_decode` reads its data as the stream is read, and stores what is left. -/
theorem tryDecode_eq (d : Decoder) (bs : Bytes) :
    tryDecode V d bs = .ok (⟨d.stored ++ pending V bs⟩, messages V bs) := by
  induction bs using (framer V).parse_induction with
  | stop bs h =>
      rw [framer_next] at h
      have hnext : nextMessage V bs = .ok none := by rw [nextMessage_eq, h]; rfl
      rw [tryDecode, messages_of_nextFrame_none h, pending_of_nextFrame_none h]
      split <;> rename_i heq <;> rw [hnext] at heq <;> cases heq
  | step bs f n h ih =>
      rw [framer_next] at h
      have hnext : nextMessage V bs = .ok (some (f.payload, bs.drop n)) := by
        rw [nextMessage_eq, h]
        rfl
      rw [tryDecode, messages_of_nextFrame_some h, pending_of_nextFrame_some h]
      split <;> rename_i heq <;> rw [hnext] at heq <;> cases heq
      split
      · rename_i hnil
        rw [hnil, messages_nil, pending_nil, List.append_nil]
      · rw [ih]
        rfl

end Decoder

/-! ## Cuts -/

variable (V)

/-- A cut leaving `held` before it and followed by `chunk` is harmless.  If it
falls inside a header, the header either completes and announces a frame at
least as long as the (at most ten) bytes read to learn its size, or does not
complete and all bytes at hand still fit. -/
def CutOk (held chunk : Bytes) : Prop :=
  held ≠ [] → decodeSize V held = none →
    match decodeSize V (held ++ chunk) with
    | some (size, used) => min maxEncodedSize (held ++ chunk).length ≤ used + size
    | none => (held ++ chunk).length ≤ maxEncodedSize

/-- A cut inside a header that runs on past ten bytes without an end, of which
no more than ten were held: `stored` fills up and stays full. -/
def Jams (held chunk : Bytes) : Prop :=
  held ≠ [] ∧ held.length ≤ maxEncodedSize ∧ decodeSize V (held ++ chunk) = none ∧
    maxEncodedSize < (held ++ chunk).length

instance (held chunk : Bytes) : Decidable (CutOk V held chunk) := by
  unfold CutOk
  split <;> infer_instance

variable {V}

theorem CutOk.nil (chunk : Bytes) : CutOk V [] chunk := fun h => absurd rfl h

theorem CutOk.of_size {held chunk : Bytes} {r : Nat × Nat} (h : decodeSize V held = some r) :
    CutOk V held chunk := fun _ hnone => by rw [h] at hnone; cases hnone

theorem decodeSize_eq_none_of_append {xs ys : Bytes} (h : decodeSize V (xs ++ ys) = none) :
    decodeSize V xs = none := by
  cases hs : decodeSize V xs with
  | none => rfl
  | some r => rw [decodeSize_append hs ys] at h; cases h

/-! ## The buffered path -/

namespace Decoder

theorem frameHeader_of_size {d : Decoder} {r : Nat × Nat} (h : decodeSize V d.stored = some r)
    (data : Bytes) : frameHeader V d data = .ok (d, some (r, data)) := by
  rw [frameHeader, h]

/-- With more than ten bytes stored and no size, the room left is negative. -/
theorem frameHeader_of_long {d : Decoder} (h : decodeSize V d.stored = none)
    (hlen : maxEncodedSize < d.stored.length) (data : Bytes) :
    frameHeader V d data = .error .underflow := by
  rw [frameHeader, h]
  simp only [checkedSub_of_lt hlen, bind, Except.bind]

/-- While the size is unknown, `stored` is filled up to the first ten bytes of
what is stored and what arrives. -/
theorem frameHeader_of_short {d : Decoder} (h : decodeSize V d.stored = none)
    (hlen : d.stored.length ≤ maxEncodedSize) (data : Bytes) :
    frameHeader V d data =
      .ok (⟨(d.stored ++ data).take maxEncodedSize⟩,
        (decodeSize V (d.stored ++ data)).map fun x =>
          (x, (d.stored ++ data).drop maxEncodedSize)) := by
  have hmin : min (maxEncodedSize - d.stored.length) data.length ≤ data.length := min_le_right _ _
  have htake : d.stored ++ data.take (min (maxEncodedSize - d.stored.length) data.length) =
      (d.stored ++ data).take maxEncodedSize := by
    rw [List.take_append, List.take_of_length_le hlen, ← List.take_eq_take_min]
  have hdrop : data.drop (min (maxEncodedSize - d.stored.length) data.length) =
      (d.stored ++ data).drop maxEncodedSize := by
    rw [List.drop_append, List.drop_of_length_le hlen, List.nil_append]
    rcases le_total (maxEncodedSize - d.stored.length) data.length with hle | hle
    · rw [min_eq_left hle]
    · rw [min_eq_right hle, List.drop_of_length_le (le_refl _), List.drop_of_length_le hle]
  rw [frameHeader, h]
  simp only [checkedSub_of_le hlen, sliceTo_of_le hmin, sliceFrom_of_le hmin, htake, hdrop, bind,
    Except.bind, decodeSize_take]
  cases decodeSize V (d.stored ++ data) with
  | none => rfl
  | some x => rfl

/-- **Completing a frame.**  Once the size of a frame is known and what is stored
does not outrun it, adding data is reading the frame off the whole. -/
theorem completeFrame_eq {d : Decoder} {size used : Nat}
    (hs : decodeSize V d.stored = some (size, used)) (hshort : d.stored.length ≤ used + size)
    (data : Bytes) :
    completeFrame d size used data =
      .ok (match nextFrame V (d.stored ++ data) with
        | none => (⟨d.stored ++ data⟩, none)
        | some (f, n) =>
            (⟨(d.stored ++ data).take n⟩, some (f.payload, (d.stored ++ data).drop n))) := by
  have hused : used ≤ d.stored.length := decodeSize_used_le hs
  have hs' : decodeSize V (d.stored ++ data) = some (size, used) := decodeSize_append hs data
  have hpayload : d.stored.length - used ≤ size := by omega
  unfold completeFrame
  simp only [checkedSub_of_le hused, checkedSub_of_le hpayload, bind, Except.bind, pure,
    Except.pure]
  by_cases hlt : data.length < size - (d.stored.length - used)
  · have hnext : nextFrame V (d.stored ++ data) = none := by
      rw [nextFrame, hs', Option.bind_some, if_neg]
      rw [List.length_append]
      omega
    rw [if_pos hlt, hnext]
  · have hle : used + size ≤ (d.stored ++ data).length := by
      rw [List.length_append]
      omega
    have hnext := nextFrame_eq_some.2 ⟨size, used, hs', hle, rfl, rfl⟩
    have hrem : size - (d.stored.length - used) ≤ data.length := by omega
    have hsum : d.stored.length + (size - (d.stored.length - used)) = used + size := by omega
    have htake : d.stored ++ data.take (size - (d.stored.length - used)) =
        (d.stored ++ data).take (used + size) := by
      rw [← hsum, List.take_length_add_append]
    have hdrop : data.drop (size - (d.stored.length - used)) =
        (d.stored ++ data).drop (used + size) := by
      rw [← hsum, List.drop_length_add_append]
    have hslice : used ≤ ((d.stored ++ data).take (used + size)).length := by
      rw [List.length_take]
      omega
    rw [if_neg hlt, splitAt_of_le hrem]
    simp only [htake, hdrop, sliceFrom_of_le hslice, hnext, List.drop_take,
      Nat.add_sub_cancel_left]

/-- A frame that ends before the bytes stored for it is not noticed. -/
theorem completeFrame_of_outrun {d : Decoder} {size used : Nat}
    (hs : decodeSize V d.stored = some (size, used)) (hlong : used + size < d.stored.length)
    (data : Bytes) : completeFrame d size used data = .error .underflow := by
  have hused : used ≤ d.stored.length := decodeSize_used_le hs
  have hpayload : size < d.stored.length - used := by omega
  unfold completeFrame
  simp only [checkedSub_of_le hused, checkedSub_of_lt hpayload, bind, Except.bind]

/-- `decode` once the frame under way has a size. -/
theorem decode_of_header {d d' : Decoder} {data behind : Bytes} {size used : Nat}
    (hne : d.stored ≠ [])
    (hheader : frameHeader V d data = .ok (d', some ((size, used), behind)))
    (hs : decodeSize V d'.stored = some (size, used))
    (hshort : d'.stored.length ≤ used + size) :
    decode V d data =
      .ok (⟨pending V (d'.stored ++ behind)⟩, messages V (d'.stored ++ behind)) := by
  rw [decode, if_neg hne, storeAndDecodedData, hheader]
  simp only [bind, Except.bind, completeFrame_eq hs hshort]
  cases hnext : nextFrame V (d'.stored ++ behind) with
  | none =>
      rw [messages_of_nextFrame_none hnext, pending_of_nextFrame_none hnext]
      rfl
  | some r =>
      obtain ⟨f, n⟩ := r
      simp only [tryDecode_eq, List.nil_append]
      rw [messages_of_nextFrame_some hnext, pending_of_nextFrame_some hnext]
      rfl

/-- **One call at a harmless cut.**  The decoder reads what it held and what
arrives as one piece of stream. -/
theorem decode_eq_of_cutOk {held chunk : Bytes} (hheld : nextFrame V held = none)
    (hcut : CutOk V held chunk) :
    decode V ⟨held⟩ chunk =
      .ok (⟨pending V (held ++ chunk)⟩, messages V (held ++ chunk)) := by
  by_cases hne : held = []
  · rw [decode, if_pos hne, tryDecode_eq, hne]
    rfl
  cases hs : decodeSize V held with
  | some r =>
      obtain ⟨size, used⟩ := r
      have hshort : held.length ≤ used + size := by
        by_contra hlong
        have hnext := nextFrame_eq_some.2 ⟨size, used, hs, by omega, rfl, rfl⟩
        rw [hheld] at hnext
        cases hnext
      exact decode_of_header (d := ⟨held⟩) hne
        (frameHeader_of_size (d := ⟨held⟩) hs chunk) hs hshort
  | none =>
      have hcut := hcut hne hs
      have hlen : held.length ≤ maxEncodedSize := by
        by_contra hlong
        rw [decodeSize_append_of_none hs (by omega)] at hcut
        rw [List.length_append] at hcut
        omega
      have hheader := frameHeader_of_short (d := ⟨held⟩) hs hlen chunk
      cases hs' : decodeSize V (held ++ chunk) with
      | some r =>
          obtain ⟨size, used⟩ := r
          rw [hs'] at hheader hcut
          have hshort : ((held ++ chunk).take maxEncodedSize).length ≤ used + size := by
            rw [List.length_take]
            exact hcut
          have := decode_of_header (d := ⟨held⟩) hne hheader (by rw [decodeSize_take, hs']) hshort
          rwa [List.take_append_drop] at this
      | none =>
          rw [hs'] at hheader hcut
          have hnext := nextFrame_eq_none_of_size_none hs'
          rw [decode, if_neg hne, storeAndDecodedData, hheader,
            messages_of_nextFrame_none hnext, pending_of_nextFrame_none hnext,
            List.take_of_length_le hcut]
          rfl

/-- At a cut that jams, the first ten bytes are kept and the rest is dropped. -/
theorem decode_of_jams {held chunk : Bytes} (h : Jams V held chunk) :
    decode V ⟨held⟩ chunk = .ok (⟨(held ++ chunk).take maxEncodedSize⟩, []) := by
  obtain ⟨hne, hlen, hs, -⟩ := h
  have hheader := frameHeader_of_short (d := ⟨held⟩) (decodeSize_eq_none_of_append hs) hlen chunk
  rw [hs] at hheader
  rw [decode, if_neg hne, storeAndDecodedData, hheader]
  rfl

/-- At any other cut that is not harmless, a subtraction underflows. -/
theorem decode_of_not_cutOk {held chunk : Bytes} (hcut : ¬ CutOk V held chunk)
    (hjam : ¬ Jams V held chunk) : decode V ⟨held⟩ chunk = .error .underflow := by
  have hne : held ≠ [] := fun h => hcut (by rw [h]; exact CutOk.nil chunk)
  have hs : decodeSize V held = none := by
    cases h : decodeSize V held with
    | none => rfl
    | some r => exact absurd (CutOk.of_size h) hcut
  have hbad := fun h => hcut fun _ _ => h
  by_cases hlen : held.length ≤ maxEncodedSize
  · cases hs' : decodeSize V (held ++ chunk) with
    | none =>
        rw [hs'] at hbad
        exact absurd ⟨hne, hlen, hs', not_le.1 hbad⟩ hjam
    | some r =>
        obtain ⟨size, used⟩ := r
        rw [hs'] at hbad
        have hheader := frameHeader_of_short (d := ⟨held⟩) hs hlen chunk
        rw [hs'] at hheader
        have hlong : used + size < ((held ++ chunk).take maxEncodedSize).length := by
          rw [List.length_take]
          exact not_le.1 hbad
        rw [decode, if_neg hne, storeAndDecodedData, hheader]
        simp only [bind, Except.bind, Option.map_some,
          completeFrame_of_outrun (d := ⟨(held ++ chunk).take maxEncodedSize⟩)
            (by rw [decodeSize_take, hs']) hlong]
  · rw [decode, if_neg hne, storeAndDecodedData,
      frameHeader_of_long (d := ⟨held⟩) hs (not_le.1 hlen)]
    rfl

end Decoder

end MessageIo
