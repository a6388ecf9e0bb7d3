import MessageIo.Protocol.Writing

/-!
# The output of the codec

`buffer_frame` puts a frame into the buffer of output, `write_out_buffer` offers the buffer to the
stream, and the stream takes what it likes of it.  Whatever the calls are and however the stream
answers, what it has taken and what is left in the buffer are the frames that were accepted, one
behind the other (`performAll_spec`).

A call may fail after its frame was put into the buffer.  The only failure that says it was not
is `WriteBufferFull`, and it has left everything as it was.
-/

namespace MessageIo

namespace Ws

/-- A call of a codec that has to do with output. -/
inductive OutputCall where
  | bufferFrame (frame : Frame)
  | writeOutBuffer
deriving DecidableEq, Repr

namespace FrameSocket

def outputCall : OutputCall → Io Unit
  | .bufferFrame frame => bufferFrame frame
  | .writeOutBuffer => writeOutBuffer

/-- The stream answers its writes so from here on. -/
def answered (writes : List WriteCall) (s : FrameSocket) : FrameSocket :=
  { s with socket := { s.socket with answers := { s.socket.answers with writes } } }

/-- A call with its answers: what it returns, and what the codec and its stream are then. -/
def perform (a : OutputCall × List WriteCall) (s : FrameSocket) : Except Error Unit × FrameSocket :=
  (outputCall a.1).attempt (s.answered a.2)

/-- Calls one after another, with what each returned. -/
def performAll (s : FrameSocket) :
    List (OutputCall × List WriteCall) → List (OutputCall × Except Error Unit) × FrameSocket
  | [] => ([], s)
  | a :: as =>
      let (r, s) := s.perform a
      let (rs, s) := s.performAll as
      ((a.1, r) :: rs, s)

/-- The frame that a call has put into the buffer: one that is rejected comes back. -/
def accepted : OutputCall × Except Error Unit → Option Frame
  | (.bufferFrame _, .error (.writeBufferFull _)) => none
  | (.bufferFrame frame, _) => some frame
  | (.writeOutBuffer, _) => none

/-- What the stream has taken, and what is left for it. -/
def output (s : FrameSocket) : Bytes := s.socket.written ++ s.codec.outBuffer

variable {s s' : FrameSocket} {frames : List Frame}

/-- **What calls do to the output**: these frames are put out, and the buffer stays within its
limit. -/
structure PutsOut (s s' : FrameSocket) (frames : List Frame) : Prop where
  output : s'.output = s.output ++ frames.flatMap Frame.format
  limit : s'.codec.maxOutBufferLen = s.codec.maxOutBufferLen
  within : s.codec.outBuffer.length ≤ s.codec.maxOutBufferLen →
    s'.codec.outBuffer.length ≤ s'.codec.maxOutBufferLen

theorem PutsOut.refl (s : FrameSocket) : PutsOut s s [] :=
  ⟨(List.append_nil _).symm, rfl, fun h ↦ h⟩

theorem PutsOut.trans {s'' : FrameSocket} {frames' : List Frame} (h : PutsOut s s' frames)
    (h' : PutsOut s' s'' frames') : PutsOut s s'' (frames ++ frames') where
  output := by rw [h'.output, h.output, List.flatMap_append, List.append_assoc]
  limit := h'.limit.trans h.limit
  within hs := h'.within (h.within hs)

/-- Writing moves bytes from the buffer to the stream. -/
theorem putsOut_drained (s : FrameSocket) : PutsOut s s.drained [] where
  output := by
    show s.socket.written ++ s.drain.taken ++ s.drain.rest = s.output ++ []
    rw [List.append_assoc, drain, FrameCodec.drain_append, List.append_nil]
    rfl
  limit := rfl
  within hs := by
    have hdrain := congrArg List.length
      (FrameCodec.drain_append s.codec.outBuffer s.socket.answers.writes)
    rw [List.length_append] at hdrain
    show s.drain.rest.length ≤ s.codec.maxOutBufferLen
    rw [drain]
    omega

/-- A frame for which there is room goes behind what is in the buffer. -/
theorem putsOut_queue {f : Frame} (h : s.Fits f) : PutsOut s (s.queue f) [f] where
  output := by
    show s.socket.written ++ (s.codec.outBuffer ++ f.format) = s.output ++ (f.format ++ [])
    rw [List.append_nil, output, List.append_assoc]
  limit := rfl
  within _ := by
    show (s.codec.outBuffer ++ f.format).length ≤ s.codec.maxOutBufferLen
    rw [List.length_append, Frame.length_format, Nat.add_comm]
    exact h

/-- A failure of the stream is not a rejection. -/
theorem accepted_drain (f : Frame) (s : FrameSocket) :
    accepted (.bufferFrame f, s.drain.result) = some f := by
  rcases FrameCodec.drain_rest s.codec.outBuffer s.socket.answers.writes with
    ⟨hok, -⟩ | ⟨⟨kind, herror⟩, -⟩
  · rw [drain, hok]
    rfl
  · rw [drain, herror]
    rfl

/-- **A frame is rejected exactly if there is no room for it**: it comes back, and nothing has
changed.  Else it is put out, whatever the stream answers. -/
theorem perform_bufferFrame (f : Frame) (writes : List WriteCall) (s : FrameSocket) :
    (¬ s.Fits f ∧ s.perform (.bufferFrame f, writes) =
        (.error (.writeBufferFull (.frame f)), s.answered writes)) ∨
      (s.Fits f ∧ accepted (.bufferFrame f, (s.perform (.bufferFrame f, writes)).1) = some f ∧
        PutsOut s (s.perform (.bufferFrame f, writes)).2 [f]) := by
  have hanswered : PutsOut s (s.answered writes) [] := ⟨(List.append_nil _).symm, rfl, fun h ↦ h⟩
  by_cases hfits : (s.answered writes).Fits f
  · refine .inr ⟨hfits, ?_⟩
    by_cases hlarge : (s.answered writes).codec.outBufferWriteLen <
        ((s.answered writes).queue f).codec.outBuffer.length
    · have hperform : s.perform (.bufferFrame f, writes) = _ := bufferFrame_large hfits hlarge
      rw [hperform]
      exact ⟨accepted_drain f _, (hanswered.trans (putsOut_queue hfits)).trans (putsOut_drained _)⟩
    · have hperform : s.perform (.bufferFrame f, writes) = _ := bufferFrame_small hfits hlarge
      rw [hperform]
      exact ⟨rfl, hanswered.trans (putsOut_queue hfits)⟩
  · exact .inl ⟨hfits, bufferFrame_full hfits⟩

/-- **One call** puts out the frame that it accepts, if it accepts one. -/
theorem perform_spec (a : OutputCall × List WriteCall) (s : FrameSocket) :
    PutsOut s (s.perform a).2 (accepted (a.1, (s.perform a).1)).toList := by
  obtain ⟨call, writes⟩ := a
  cases call with
  | writeOutBuffer =>
      have hperform : s.perform (.writeOutBuffer, writes) = _ :=
        attempt_writeOutBuffer (s.answered writes)
      have hanswered : PutsOut s (s.answered writes) [] :=
        ⟨(List.append_nil _).symm, rfl, fun h ↦ h⟩
      rw [hperform]
      exact hanswered.trans (putsOut_drained _)
  | bufferFrame f =>
      rcases perform_bufferFrame f writes s with ⟨-, hfull⟩ | ⟨-, haccepted, hputs⟩
      · rw [hfull]
        exact ⟨(List.append_nil _).symm, rfl, fun h ↦ h⟩
      · rw [haccepted]
        exact hputs

/-- **All calls together** put out the frames that they accept, in order. -/
theorem performAll_spec (calls : List (OutputCall × List WriteCall)) (s : FrameSocket) :
    PutsOut s (s.performAll calls).2 ((s.performAll calls).1.filterMap accepted) := by
  induction calls generalizing s with
  | nil => exact .refl s
  | cons a calls ih =>
      have hstep := (perform_spec a s).trans (ih (s.perform a).2)
      have hframes : (s.performAll (a :: calls)).1.filterMap accepted =
          (accepted (a.1, (s.perform a).1)).toList ++
            ((s.perform a).2.performAll calls).1.filterMap accepted := by
        show List.filterMap accepted ((a.1, (s.perform a).1) :: _) = _
        rw [List.filterMap_cons]
        cases accepted (a.1, (s.perform a).1) with
        | none => rfl
        | some f => rfl
      rw [hframes]
      exact hstep

/-- A codec that nothing was done with yet, with these limits. -/
def withLimits (part : Bytes) (maxOutBufferLen outBufferWriteLen : Nat) (answers : Answers) :
    FrameSocket where
  socket := .new answers
  codec := { FrameCodec.fromPartiallyRead part with maxOutBufferLen, outBufferWriteLen }

/-- **Output is conserved.**  Behind any calls, what the stream has taken and what is left in the
buffer are the accepted frames as they are formatted, in order, and the buffer is within its
limit.  The next frame is rejected exactly if its length and that of the buffer exceed the
limit; it comes back then and nothing has changed.  The length of a frame is the number of the
bytes that formatting it appends. -/
theorem output_conserved (part : Bytes) (maxOutBufferLen outBufferWriteLen : Nat)
    (answers : Answers) (calls : List (OutputCall × List WriteCall)) :
    let out := (withLimits part maxOutBufferLen outBufferWriteLen answers).performAll calls
    out.2.socket.written ++ out.2.codec.outBuffer =
        (out.1.filterMap accepted).flatMap Frame.format ∧
      out.2.codec.outBuffer.length ≤ maxOutBufferLen ∧
      ∀ f : Frame, f.format.length = f.len ∧ ∀ writes,
        let next := out.2.perform (.bufferFrame f, writes)
        ((∃ m, next.1 = .error (.writeBufferFull m)) ↔
            maxOutBufferLen < f.len + out.2.codec.outBuffer.length) ∧
          (maxOutBufferLen < f.len + out.2.codec.outBuffer.length →
            next.1 = .error (.writeBufferFull (.frame f)) ∧ next.2.codec = out.2.codec ∧
              next.2.socket.written = out.2.socket.written) := by
  intro out
  have hputs := performAll_spec calls
    (withLimits part maxOutBufferLen outBufferWriteLen answers)
  have hlimit : out.2.codec.maxOutBufferLen = maxOutBufferLen := hputs.limit
  refine ⟨hputs.output, ?_, fun f ↦ ⟨f.length_format, fun writes ↦ ?_⟩⟩
  · rw [← hlimit]
    exact hputs.within (Nat.zero_le _)
  · intro next
    have hfits : out.2.Fits f ↔ ¬ maxOutBufferLen < f.len + out.2.codec.outBuffer.length := by
      rw [Fits, hlimit, Nat.not_lt]
    rcases perform_bufferFrame f writes out.2 with ⟨hfull, hnext⟩ | ⟨hroom, haccepted, -⟩
    · have hlt := not_not.1 fun h ↦ hfull (hfits.2 h)
      have hnext' : next = (.error (.writeBufferFull (.frame f)), out.2.answered writes) := hnext
      rw [hnext']
      exact ⟨⟨fun _ ↦ hlt, fun _ ↦ ⟨_, rfl⟩⟩, fun _ ↦ ⟨rfl, rfl, rfl⟩⟩
    · have hle := hfits.1 hroom
      refine ⟨⟨?_, fun hlt ↦ absurd hlt hle⟩, fun hlt ↦ absurd hlt hle⟩
      rintro ⟨m, hm⟩
      rw [show (out.2.perform (.bufferFrame f, writes)).1 = _ from hm] at haccepted
      cases haccepted

end FrameSocket

end Ws

end MessageIo
