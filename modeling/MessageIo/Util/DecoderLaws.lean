import Mathlib.Data.List.Induction
import MessageIo.Util.Decoding

/-!
# The decoder on every stream

The comparison of `MessageIo/Util/Decoding.lean` is between one call of `decode`
and the reading of a stream.  Here it is carried through whole sequences of
chunks.

* `Decoder.feed_encoded`: a stream of encoded messages, cut anywhere, gives back
  the messages.
* `Decoder.conserves_iff`: on an arbitrary stream the decoder loses no byte and
  does not see the cuts exactly when every cut is harmless.
* `Decoder.safe_iff`: it runs without a fault exactly when the first cut that is
  not harmless, if there is one, jams it.

The last two are the limits of the code: `Decoder.not_conserves_jammed` and
`Decoder.not_safe_short_frame` are streams a peer can send that go past them.
-/

namespace MessageIo

open Framing

variable {V : VarInt}

/-- A frame whose header announces its message. -/
def Frame.Wf (V : VarInt) (f : Frame) : Prop :=
  decodeSize V f.header = some (f.payload.length, f.header.length)

theorem wf_of_nextFrame {bs : Bytes} {f : Frame} {n : Nat} (h : nextFrame V bs = some (f, n)) :
    f.Wf V := by
  obtain ⟨size, used, hs, hle, rfl, rfl⟩ := nextFrame_eq_some.1 h
  have hheader := decodeSize_take_append hs []
  have hused : (bs.take used).length = used := by
    rw [List.length_take]
    omega
  have hsize : ((bs.drop used).take size).length = size := by
    rw [List.length_take, List.length_drop]
    omega
  rw [List.append_nil] at hheader
  rw [Frame.Wf, hheader, hused, hsize]

/-- **The reading of a stream loses nothing**: its frames and the bytes pending
spell it. -/
theorem exists_frames (bs : Bytes) :
    ∃ fs : List Frame, (∀ f ∈ fs, f.Wf V) ∧ fs.map Frame.payload = messages V bs ∧
      fs.flatMap Frame.raw ++ pending V bs = bs := by
  refine ⟨(framer V).frames bs, ?_, rfl, ?_⟩
  · intro f hf
    obtain ⟨ys, n, hnext⟩ := (framer V).exists_next_of_mem_frames hf
    exact wf_of_nextFrame hnext
  · exact (framer V).flatMap_frames_append_pending Frame.raw (fun _ _ _ h => raw_eq_take h) bs

/-! ## Sequences of chunks -/

/-- Every cut of a sequence of chunks is harmless. -/
def CutsOk (V : VarInt) (chunks : List Bytes) : Prop :=
  ∀ pre chunk post, chunks = pre ++ chunk :: post → CutOk V (pending V pre.flatten) chunk

theorem CutsOk.of_append {xs ys : List Bytes} (h : CutsOk V (xs ++ ys)) : CutsOk V xs := by
  intro pre chunk post heq
  exact h pre chunk (post ++ ys) (by rw [heq, List.append_assoc]; rfl)

theorem CutsOk.last {xs : List Bytes} {c : Bytes} (h : CutsOk V (xs ++ [c])) :
    CutOk V (pending V xs.flatten) c := h xs c [] rfl

namespace Decoder

theorem feed_append {d d' : Decoder} {ms : List Bytes} {xs : List Bytes}
    (h : feed V d xs = .ok (d', ms)) (ys : List Bytes) :
    feed V d (xs ++ ys) = (feed V d' ys).map fun r => (r.1, ms ++ r.2) := by
  induction xs generalizing d ms with
  | nil =>
      obtain ⟨rfl, rfl⟩ : d = d' ∧ [] = ms := by simpa [feed] using h
      cases hys : feed V d ys <;> simp [hys, Except.map]
  | cons x xs ih =>
      simp only [feed, List.cons_append, bind, Except.bind] at h ⊢
      cases hx : decode V d x with
      | error e => rw [hx] at h; cases h
      | ok r =>
          rw [hx] at h
          simp only at h ⊢
          cases hxs : feed V r.1 xs with
          | error e => rw [hxs] at h; cases h
          | ok r' =>
              rw [hxs] at h
              cases h
              rw [ih hxs]
              cases hys : feed V r'.1 ys <;> simp [Except.map, pure, Except.pure]

theorem feed_singleton (d : Decoder) (c : Bytes) : feed V d [c] = decode V d c := by
  simp only [feed, bind, Except.bind, pure, Except.pure]
  cases decode V d c <;> simp

/-- A run through one more chunk. -/
theorem feed_concat {d d' : Decoder} {ms : List Bytes} {xs : List Bytes}
    (h : feed V d xs = .ok (d', ms)) (c : Bytes) :
    feed V d (xs ++ [c]) = (decode V d' c).map fun r => (r.1, ms ++ r.2) := by
  rw [feed_append h, feed_singleton]

/-- A whole stream as one chunk is read as it is. -/
theorem feed_uncut (bs : Bytes) :
    feed V default [bs] = .ok (⟨pending V bs⟩, messages V bs) := by
  rw [feed_singleton, decode, if_pos (show default.stored = [] from rfl), tryDecode_eq]
  rfl

/-- **The decoder reads the stream**, however it is cut, when no cut does harm. -/
theorem feed_of_cutsOk {chunks : List Bytes} (h : CutsOk V chunks) :
    feed V default chunks = .ok (⟨pending V chunks.flatten⟩, messages V chunks.flatten) := by
  induction chunks using List.reverseRecOn with
  | nil => rw [List.flatten_nil, pending_nil, messages_nil]; rfl
  | append_singleton xs c ih =>
      have hxs := ih h.of_append
      have hc := decode_eq_of_cutOk (nextFrame_pending _) h.last
      rw [feed_concat hxs, hc, List.flatten_append, List.flatten_singleton,
        pending_append xs.flatten, messages_append xs.flatten]
      rfl

/-! ## No byte is lost -/

/-- The decoder keeps account of the bytes it is fed.  After every call, the
bytes so far are the frames of the messages delivered followed by what is
stored, and both are what the same bytes give when they are not cut. -/
def Conserves (V : VarInt) (chunks : List Bytes) : Prop :=
  ∀ pre, pre <+: chunks → ∃ d ms, feed V default pre = .ok (d, ms) ∧
    (∃ fs : List Frame, (∀ f ∈ fs, f.Wf V) ∧ fs.map Frame.payload = ms ∧
      fs.flatMap Frame.raw ++ d.stored = pre.flatten) ∧
    feed V default [pre.flatten] = .ok (d, ms)

theorem Conserves.feed_eq {chunks : List Bytes} (h : Conserves V chunks) (pre : List Bytes)
    (hpre : pre <+: chunks) :
    feed V default pre = .ok (⟨pending V pre.flatten⟩, messages V pre.flatten) := by
  obtain ⟨d, ms, hfeed, -, huncut⟩ := h pre hpre
  rw [hfeed, ← huncut, feed_uncut]

theorem cutsOk_of_conserves {chunks : List Bytes} (h : Conserves V chunks) : CutsOk V chunks := by
  rintro pre c post rfl
  have hpre := h.feed_eq pre (List.prefix_append pre (c :: post))
  have hc := h.feed_eq (pre ++ [c]) ⟨post, by rw [List.append_assoc]; rfl⟩
  rw [feed_concat hpre, List.flatten_append, List.flatten_singleton] at hc
  by_contra hcut
  by_cases hjam : Jams V (pending V pre.flatten) c
  · -- the decoder holds ten bytes, the stream has more of them pending
    obtain ⟨-, -, hs, hlen⟩ := id hjam
    rw [decode_of_jams hjam, pending_append,
      pending_of_nextFrame_none (nextFrame_eq_none_of_size_none hs)] at hc
    have hstored := congrArg (fun r => r.toOption.map fun p => p.1.stored.length) hc
    simp only [Except.map, Except.toOption, Option.map_some, List.length_take,
      Option.some.injEq] at hstored
    omega
  · rw [decode_of_not_cutOk hcut hjam] at hc
    cases hc

/-- **Conservation of bytes**, exactly: the decoder accounts for every byte and
does not see the cuts if and only if all cuts are harmless. -/
theorem conserves_iff (chunks : List Bytes) : Conserves V chunks ↔ CutsOk V chunks := by
  refine ⟨cutsOk_of_conserves, ?_⟩
  rintro h pre ⟨post, rfl⟩
  refine ⟨_, _, feed_of_cutsOk h.of_append, exists_frames pre.flatten, feed_uncut _⟩

/-- Nine bytes of an unfinished header, then one more and a byte behind it: the
last byte is dropped. -/
theorem not_conserves_jammed :
    ¬ Conserves VarInt.leb128 [List.replicate 9 0x80, [0x80, 0x01]] := by
  intro h
  have hcut := cutsOk_of_conserves h [List.replicate 9 0x80] [0x80, 0x01] [] rfl
  have hpending : pending VarInt.leb128 [List.replicate 9 0x80].flatten = List.replicate 9 0x80 :=
    pending_of_nextFrame_none (nextFrame_eq_none_of_size_none (by decide))
  rw [hpending] at hcut
  exact absurd hcut (by decide)

/-! ## No fault -/

/-- The decoder takes every chunk without a fault. -/
def Safe (V : VarInt) (chunks : List Bytes) : Prop := ∃ r, feed V default chunks = .ok r

/-- The first cut that is not harmless, if there is one, jams the decoder. -/
def FirstBadCutJams (V : VarInt) (chunks : List Bytes) : Prop :=
  ∀ pre chunk post, chunks = pre ++ chunk :: post → CutsOk V pre →
    CutOk V (pending V pre.flatten) chunk ∨ Jams V (pending V pre.flatten) chunk

/-- A jammed decoder takes any chunk and drops it. -/
theorem feed_jammed {d : Decoder} (hs : decodeSize V d.stored = none)
    (hlen : d.stored.length = maxEncodedSize) (chunks : List Bytes) :
    feed V d chunks = .ok (d, []) := by
  have htake : ∀ c, (d.stored ++ c).take maxEncodedSize = d.stored := fun c => by
    rw [← hlen, List.take_left]
  have hne : d.stored ≠ [] := fun h => by rw [h] at hlen; cases hlen
  have hdecode : ∀ c, decode V d c = .ok (d, []) := by
    intro c
    have hheader := frameHeader_of_short hs (le_of_eq hlen) c
    rw [htake, decodeSize_append_of_none hs (le_of_eq hlen.symm)] at hheader
    rw [decode, if_neg hne, storeAndDecodedData, hheader]
    rfl
  induction chunks with
  | nil => rfl
  | cons c cs ih =>
      rw [feed, hdecode c]
      simp only [bind, Except.bind, ih]
      rfl

/-- A sequence of chunks that is not harmless has a first cut that is not. -/
theorem exists_first_bad_cut {chunks : List Bytes} (h : ¬ CutsOk V chunks) :
    ∃ pre c post, chunks = pre ++ c :: post ∧ CutsOk V pre ∧
      ¬ CutOk V (pending V pre.flatten) c := by
  induction chunks using List.reverseRecOn with
  | nil => exact absurd (fun pre c post heq => by simp at heq) h
  | append_singleton xs c ih =>
      by_cases hxs : CutsOk V xs
      · refine ⟨xs, c, [], rfl, hxs, fun hc => h fun pre c' post heq => ?_⟩
        rcases List.eq_nil_or_concat' post with rfl | ⟨post', z, rfl⟩
        · obtain ⟨rfl, hcc⟩ := List.append_inj' heq rfl
          cases hcc
          exact hc
        · rw [← List.cons_append, ← List.append_assoc] at heq
          obtain ⟨rfl, -⟩ := List.append_inj' heq rfl
          exact hxs pre c' post' rfl
      · obtain ⟨pre, c', post, rfl, hpre, hbad⟩ := ih hxs
        exact ⟨pre, c', post ++ [c], by rw [List.append_assoc]; rfl, hpre, hbad⟩

theorem firstBadCutJams_of_safe {chunks : List Bytes} (h : Safe V chunks) :
    FirstBadCutJams V chunks := by
  rintro pre c post rfl hpre
  by_contra hbad
  obtain ⟨hcut, hjam⟩ := not_or.1 hbad
  obtain ⟨r, hr⟩ := h
  have hdecode := decode_of_not_cutOk hcut hjam
  rw [feed_append (feed_of_cutsOk hpre)] at hr
  simp only [feed, hdecode, bind, Except.bind, Except.map] at hr
  cases hr

theorem safe_of_firstBadCutJams {chunks : List Bytes} (h : FirstBadCutJams V chunks) :
    Safe V chunks := by
  by_cases hcuts : CutsOk V chunks
  · exact ⟨_, feed_of_cutsOk hcuts⟩
  obtain ⟨pre, c, post, rfl, hpre, hbad⟩ := exists_first_bad_cut hcuts
  rcases h pre c post rfl hpre with hcut | hjam
  · exact absurd hcut hbad
  · obtain ⟨-, -, hs, hlen⟩ := id hjam
    have hstuck := feed_jammed (V := V)
      (d := ⟨(pending V pre.flatten ++ c).take maxEncodedSize⟩)
      (by rw [decodeSize_take, hs]) (by rw [List.length_take]; omega) post
    have hdecode := decode_of_jams hjam
    have hrest : feed V ⟨pending V pre.flatten⟩ (c :: post) =
        .ok (⟨(pending V pre.flatten ++ c).take maxEncodedSize⟩, []) := by
      rw [feed, hdecode]
      simp only [bind, Except.bind, hstuck]
      rfl
    rw [Safe, feed_append (feed_of_cutsOk hpre), hrest]
    exact ⟨_, rfl⟩

/-- **Absence of faults**, exactly: no call underflows or slices out of range if
and only if the first cut that is not harmless jams the decoder. -/
theorem safe_iff (chunks : List Bytes) : Safe V chunks ↔ FirstBadCutJams V chunks :=
  ⟨firstBadCutJams_of_safe, safe_of_firstBadCutJams⟩

/-- A header of two bytes announcing an empty message, cut in the middle: the
byte behind it is taken for payload. -/
theorem not_safe_short_frame : ¬ Safe VarInt.leb128 [[0x80], [0x00, 0x01]] := by
  intro h
  have hpending : pending VarInt.leb128 [[0x80]].flatten = [0x80] :=
    pending_of_nextFrame_none (nextFrame_eq_none_of_size_none (by decide))
  have hpre : CutsOk VarInt.leb128 [[0x80]] := by
    intro pre c post heq
    rcases List.cons_eq_append_iff.1 heq with ⟨rfl, -⟩ | ⟨as, rfl, h'⟩
    · rw [List.flatten_nil, pending_nil]
      exact CutOk.nil c
    · simp at h'
  have hor := firstBadCutJams_of_safe h [[0x80]] [0x00, 0x01] [] rfl hpre
  rw [hpending] at hor
  rcases hor with hcut | ⟨-, -, hs, -⟩
  · exact absurd hcut (by decide)
  · exact absurd hs (by decide)

/-! ## Honest streams -/

/-- The frame of an encoded message. -/
theorem nextFrame_encoded (hV : V.IsLeb128) {m : Bytes} (hm : m.length < 2 ^ 64) (rest : Bytes) :
    nextFrame V (encodeSize V m ++ m ++ rest) =
      some (⟨encodeSize V m, m⟩, (encodeSize V m ++ m).length) := by
  have hsize := hV.decodeVar_encode m.length hm (m ++ rest)
  rw [encodeSize, hV.encodeVar_eq m.length hm, List.append_assoc]
  refine nextFrame_eq_some.2 ⟨_, _, hsize, ?_, ?_, ?_⟩
  · simp only [List.length_append]
    omega
  · rw [List.take_left, List.drop_left, List.take_left]
  · rw [List.length_append]

/-- The stream of a list of messages. -/
def encoded (V : VarInt) (ms : List Bytes) : Bytes := ms.flatMap fun m => encodeSize V m ++ m

theorem encoded_cons (m : Bytes) (ms : List Bytes) :
    encoded V (m :: ms) = encodeSize V m ++ m ++ encoded V ms := List.flatMap_cons ..

theorem frames_encoded (hV : V.IsLeb128) {ms : List Bytes} (hms : ∀ m ∈ ms, m.length < 2 ^ 64) :
    (framer V).frames (encoded V ms) = ms.map (fun m => ⟨encodeSize V m, m⟩) ∧
      pending V (encoded V ms) = [] := by
  induction ms with
  | nil => exact ⟨Framer.frames_nil, Framer.pending_nil⟩
  | cons m ms ih =>
      have hnext := nextFrame_encoded hV (hms m (List.mem_cons_self ..)) (encoded V ms)
      obtain ⟨hframes, hpending⟩ := ih fun x hx => hms x (List.mem_cons_of_mem _ hx)
      rw [encoded_cons, Framer.frames_of_some hnext, pending_of_nextFrame_some hnext,
        List.drop_left, hframes, hpending]
      exact ⟨rfl, rfl⟩

/-- Where a stream of encoded messages is cut inside a header, the bytes on both
sides of the cut begin with the header of one of the messages. -/
theorem exists_header_of_cut (hV : V.IsLeb128) {ms : List Bytes}
    (hms : ∀ m ∈ ms, m.length < 2 ^ 64) {xs ys : Bytes} (hcat : xs ++ ys = encoded V ms)
    (hne : pending V xs ≠ []) :
    ∃ m ∈ ms, decodeSize V (pending V xs ++ ys) = some (m.length, (encodeSize V m).length) := by
  obtain ⟨hframes, hpending⟩ := frames_encoded hV hms
  rw [← hcat, Framer.frames_append] at hframes
  rw [← hcat, pending_append] at hpending
  change _ ++ (framer V).frames (pending V xs ++ ys) = _ at hframes
  cases hnext : nextFrame V (pending V xs ++ ys) with
  | none =>
      rw [pending_of_nextFrame_none hnext] at hpending
      exact absurd (List.append_eq_nil_iff.1 hpending).1 hne
  | some r =>
      obtain ⟨f, n⟩ := r
      obtain ⟨size, used, hs, hle, hf, -⟩ := nextFrame_eq_some.1 hnext
      have hmem : f ∈ ms.map (fun m => (⟨encodeSize V m, m⟩ : Frame)) := by
        rw [← hframes, Framer.frames_of_some (F := framer V) hnext]
        exact List.mem_append_right _ (List.mem_cons_self ..)
      obtain ⟨m, hm, rfl⟩ := List.mem_map.1 hmem
      have hheader := congrArg (fun g : Frame => g.header.length) hf
      have hpayload := congrArg (fun g : Frame => g.payload.length) hf
      simp only [List.length_take, List.length_drop] at hheader hpayload
      refine ⟨m, hm, ?_⟩
      rw [hs]
      congr 2 <;> omega

/-- An honest stream may be cut anywhere. -/
theorem cutsOk_encoded (hV : V.IsLeb128) {ms : List Bytes} (hms : ∀ m ∈ ms, m.length < 2 ^ 64)
    {chunks : List Bytes} (hcat : chunks.flatten = encoded V ms) : CutsOk V chunks := by
  rintro pre c post rfl hne hnone
  rw [List.flatten_append, List.flatten_cons] at hcat
  obtain ⟨m, hm, hs⟩ := exists_header_of_cut hV hms hcat hne
  have hmax := decodeSize_used_le_max hs
  rw [← List.append_assoc] at hs
  cases hs' : decodeSize V (pending V pre.flatten ++ c) with
  | none =>
      -- the header is longer than what has arrived of it
      by_contra hlong
      rw [decodeSize_append_of_none hs' (Nat.le_of_lt (not_le.1 hlong))] at hs
      cases hs
  | some r =>
      rw [decodeSize_append hs'] at hs
      cases hs
      -- the part of the header before the cut is not empty, nor is the part behind it
      have hused : (pending V pre.flatten).length < (encodeSize V m).length := by
        by_contra hshort
        have htake := decodeSize_take_append hs' ((pending V pre.flatten).drop
          (encodeSize V m).length)
        rw [List.take_append_of_le_length (not_lt.1 hshort), List.take_append_drop, hnone]
          at htake
        cases htake
      have hpos : 0 < (pending V pre.flatten).length := List.length_pos_iff.2 hne
      have hlen : 128 ≤ m.length := by
        refine Leb128.le_of_one_lt_length_encode ?_
        rw [← hV.encodeVar_eq m.length (hms m hm)]
        exact lt_of_le_of_lt hpos hused
      exact le_trans (min_le_left _ _) (by unfold maxEncodedSize; omega)

/-- **A stream of messages, cut anywhere, gives back the messages.**  A message
is a slice, so its length is a `usize`. -/
theorem feed_encoded (hV : V.IsLeb128) (ms : List Bytes) (hms : ∀ m ∈ ms, m.length < 2 ^ 64)
    (chunks : List Bytes) (hcat : chunks.flatten = ms.flatMap fun m => encodeSize V m ++ m) :
    feed V default chunks = .ok (default, ms) := by
  obtain ⟨hframes, hpending⟩ := frames_encoded hV hms
  rw [feed_of_cutsOk (cutsOk_encoded hV hms hcat), hcat]
  change (Except.ok ((⟨pending V (encoded V ms)⟩ : Decoder), messages V (encoded V ms)) :
    Except Fault _) = _
  rw [hpending, messages, hframes, List.map_map]
  congr 2
  exact List.map_id _

/-- An empty message and one of two bytes, in four chunks of which one is empty. -/
theorem feed_encoded_two :
    feed VarInt.leb128 default [[0x00, 0x02], [], [0x2a], [0x2b]] =
      .ok (default, [[], [0x2a, 0x2b]]) := by
  refine feed_encoded VarInt.leb128_isLeb128 [[], [0x2a, 0x2b]] ?_ _ ?_
  · intro m hm
    simp only [List.mem_cons, List.not_mem_nil, or_false] at hm
    rcases hm with rfl | rfl <;> simp
  · simp only [encodeSize, VarInt.leb128, List.flatMap_cons, List.flatMap_nil, List.length_nil,
      List.length_cons]
    rw [Leb128.encode_of_lt (by omega), Leb128.encode_of_lt (by omega)]
    rfl

end Decoder

end MessageIo
