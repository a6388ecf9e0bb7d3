import MessageIo.Protocol.Context

/-!
# What the writing calls do

`bufferFrame`, `writeAdditional`, `_write` and `flush` put frames into the buffer of output and
write from it.  For each there is one lemma for each way it goes, and one that says what all
ways have in common (`Flushed`): what has been read stays, the frame of `additionalSend` stays
or goes out, and nothing else is put out.
-/

namespace MessageIo

namespace Ws

/-! ## The buffer of output -/

namespace FrameCodec

@[simp] theorem drain_nil (writes : List WriteCall) :
    drain [] writes = ⟨.ok (), [], writes, [], []⟩ := by
  cases writes with
  | nil => rfl
  | cons call writes => rfl

section Drain

variable {out : Bytes} (h : out ≠ []) (writes : List WriteCall)

include h

theorem drain_end : drain out [] = ⟨.error (.io .wouldBlock), out, [], [], [out.length]⟩ := by
  rw [drain.eq_def]
  exact if_neg h

theorem drain_err (kind : ErrorKind) :
    drain out (.err kind :: writes) = ⟨.error (.io kind), out, writes, [], [out.length]⟩ := by
  rw [drain.eq_def]
  exact if_neg h

theorem drain_zero :
    drain out (.ok 0 :: writes) =
      ⟨.error (.io .connectionReset), out, writes, [], [out.length]⟩ := by
  rw [drain.eq_def]
  simp only [if_neg h, Nat.zero_min, if_true]

theorem drain_ok {n : Nat} (hn : 0 < n) :
    drain out (.ok n :: writes) =
      { drain (out.drop n) writes with
        taken := out.take n ++ (drain (out.drop n) writes).taken
        offers := out.length :: (drain (out.drop n) writes).offers } := by
  have hpos := List.length_pos_of_ne_nil h
  have htake : out.take (min n out.length) = out.take n := by
    rw [← List.take_take, List.take_length]
  have hdrop : out.drop (min n out.length) = out.drop n := by
    by_cases hle : n ≤ out.length
    · rw [Nat.min_eq_left hle]
    · rw [Nat.min_eq_right (by omega), List.drop_length, List.drop_of_length_le (by omega)]
  rw [drain.eq_def]
  simp only [if_neg h, if_neg (show min n out.length ≠ 0 by omega), htake, hdrop]

end Drain

/-- A property of what `drain` ends with, for each way it ends. -/
theorem drain_cases {P : Bytes → List WriteCall → Drained → Prop}
    (nil : ∀ writes, P [] writes ⟨.ok (), [], writes, [], []⟩)
    (stop : ∀ out writes kind rest, out ≠ [] →
      P out writes ⟨.error (.io kind), out, rest, [], [out.length]⟩)
    (more : ∀ out writes n d, out ≠ [] → 0 < n → P (out.drop n) writes d →
      P out (.ok n :: writes)
        { d with taken := out.take n ++ d.taken, offers := out.length :: d.offers })
    (out : Bytes) (writes : List WriteCall) : P out writes (drain out writes) := by
  induction writes generalizing out with
  | nil =>
      by_cases hnil : out = []
      · rw [hnil, drain_nil]
        exact nil _
      · rw [drain_end hnil]
        exact stop _ _ _ _ hnil
  | cons call writes ih =>
      by_cases hnil : out = []
      · rw [hnil, drain_nil]
        exact nil _
      · cases call with
        | err kind =>
            rw [drain_err hnil]
            exact stop _ _ _ _ hnil
        | ok n =>
            rcases Nat.eq_zero_or_pos n with rfl | hpos
            · rw [drain_zero hnil]
              exact stop _ _ _ _ hnil
            · rw [drain_ok hnil writes hpos]
              exact more _ _ _ _ hnil hpos (ih _)

/-- What the stream takes and what is left is what there was. -/
theorem drain_append (out : Bytes) (writes : List WriteCall) :
    (drain out writes).taken ++ (drain out writes).rest = out := by
  apply drain_cases (P := fun out _ d ↦ d.taken ++ d.rest = out)
  · exact fun _ ↦ rfl
  · exact fun _ _ _ _ _ ↦ rfl
  · intro out writes n d _ _ ih
    show out.take n ++ d.taken ++ d.rest = out
    rw [List.append_assoc, ih, List.take_append_drop]

/-- Nothing is left exactly if there was no error. -/
theorem drain_rest (out : Bytes) (writes : List WriteCall) :
    (drain out writes).result = .ok () ∧ (drain out writes).rest = [] ∨
      (∃ kind, (drain out writes).result = .error (.io kind)) ∧ (drain out writes).rest ≠ [] := by
  apply drain_cases (P := fun _ _ d ↦ d.result = .ok () ∧ d.rest = [] ∨
    (∃ kind, d.result = .error (.io kind)) ∧ d.rest ≠ [])
  · exact fun _ ↦ .inl ⟨rfl, rfl⟩
  · exact fun _ _ kind _ hout ↦ .inr ⟨⟨kind, rfl⟩, hout⟩
  · exact fun _ _ _ _ _ _ ih ↦ ih

end FrameCodec

/-! ## The codec on its stream -/

namespace FrameSocket

variable {s : FrameSocket} {f : Frame}

/-- The stream is offered what is in the buffer of output. -/
def drain (s : FrameSocket) : FrameCodec.Drained :=
  FrameCodec.drain s.codec.outBuffer s.socket.answers.writes

/-- The stream has been offered what was in the buffer of output. -/
def drained (s : FrameSocket) : FrameSocket where
  socket := { s.socket with
    answers := { s.socket.answers with writes := s.drain.writes }
    ops := s.socket.ops ++ s.drain.offers.map .write
    written := s.socket.written ++ s.drain.taken }
  codec := { s.codec with outBuffer := s.drain.rest }

theorem attempt_writeOutBuffer (s : FrameSocket) :
    writeOutBuffer.attempt s = (s.drain.result, s.drained) := EStateM.attempt_ofExcept _ _

/-- Without room, nothing is put into the buffer. -/
theorem bufferFrame_full (h : ¬ s.Fits f) :
    (bufferFrame f).attempt s = (.error (.writeBufferFull (.frame f)), s) := by
  show EStateM.attempt (if ¬ s.Fits f then _ else _) s = _
  rw [if_pos h, EStateM.attempt_throw]

/-- With room and little in the buffer, nothing is written. -/
theorem bufferFrame_small (h : s.Fits f)
    (hsmall : ¬ s.codec.outBufferWriteLen < (s.queue f).codec.outBuffer.length) :
    (bufferFrame f).attempt s = (.ok (), s.queue f) := by
  show EStateM.attempt (if ¬ s.Fits f then _ else do
    set (s.queue f)
    if s.codec.outBufferWriteLen < (s.queue f).codec.outBuffer.length then _ else _) s = _
  rw [if_neg (not_not_intro h), if_neg hsmall]
  exact rfl

/-- With room and much in the buffer, it is written. -/
theorem bufferFrame_large (h : s.Fits f)
    (hlarge : s.codec.outBufferWriteLen < (s.queue f).codec.outBuffer.length) :
    (bufferFrame f).attempt s = ((s.queue f).drain.result, (s.queue f).drained) := by
  rw [← attempt_writeOutBuffer]
  show EStateM.attempt (if ¬ s.Fits f then _ else do
    set (s.queue f)
    if s.codec.outBufferWriteLen < (s.queue f).codec.outBuffer.length then _ else _) s = _
  rw [if_neg (not_not_intro h), if_pos hlarge]
  exact rfl

end FrameSocket

/-! ## Frames that go out -/

/-- **A frame as it goes out**: a client has masked it. -/
inductive Goes : Role → Frame → Frame → Prop
  | server {f : Frame} : Goes .server f f
  | client {f : Frame} (mask : Mask) : Goes .client f (f.setMask mask)

theorem Goes.trans {role : Role} {f g h : Frame} (hfg : Goes role f g) (hgh : Goes role g h) :
    Goes role f h := by
  cases hfg with
  | server => exact hgh
  | client mask =>
      cases hgh with
      | client mask' => exact .client mask'

section Goes

variable {role : Role} {f g : Frame}

theorem Goes.opcode (h : Goes role f g) : g.header.opcode = f.header.opcode := by
  cases h with
  | server => rfl
  | client mask => rfl

theorem Goes.isClose (h : Goes role f g) : g.isClose = f.isClose := by
  rw [Frame.isClose, Frame.isClose, h.opcode]

theorem Goes.isData (h : Goes role f g) : g.isData = f.isData := by
  rw [Frame.isData, Frame.isData, h.opcode]

theorem Goes.isPong (h : Goes role f g) : g.isPong = f.isPong := by
  rw [Frame.isPong, Frame.isPong, h.opcode]

end Goes

namespace WebSocket

/-- What writing leaves alone. -/
structure Input where
  role : Role
  config : WebSocketConfig
  incomplete : Option IncompleteMessage
  inBuffer : Bytes
  header : Option (FrameHeader × Nat)
  reads : List ReadCall
  maxOutBufferLen : Nat
  outBufferWriteLen : Nat

def input (w : WebSocket) : Input where
  role := w.context.role
  config := w.context.config
  incomplete := w.context.incomplete
  inBuffer := w.context.frame.inBuffer
  header := w.context.frame.header
  reads := w.socket.answers.reads
  maxOutBufferLen := w.context.frame.maxOutBufferLen
  outBufferWriteLen := w.context.frame.outBufferWriteLen

variable {w w' w'' : WebSocket} {f : Frame}

theorem goes_masked (w : WebSocket) (f : Frame) : Goes w.context.role f (w.masked f) := by
  rw [masked]
  cases w.context.role with
  | server => exact .server
  | client => exact .client _

/-- There is room for a frame in the buffer of output. -/
def Fits (w : WebSocket) (frame : Frame) : Prop := w.frameSocket.Fits (w.masked frame)

instance (w : WebSocket) (frame : Frame) : Decidable (w.Fits frame) :=
  inferInstanceAs (Decidable (w.frameSocket.Fits (w.masked frame)))

/-- The frame has been put into the buffer of output. -/
def buffered (frame : Frame) (w : WebSocket) : WebSocket :=
  w.drawMask.setFrameSocket (w.drawMask.frameSocket.queue (w.masked frame))

/-- The stream is offered what is in the buffer of output. -/
def drain (w : WebSocket) : FrameCodec.Drained :=
  FrameCodec.drain w.context.frame.outBuffer w.socket.answers.writes

/-- The stream has been offered what was in the buffer of output. -/
def drained (w : WebSocket) : WebSocket :=
  { w with
    socket := { w.socket with
      answers := { w.socket.answers with writes := w.drain.writes }
      ops := w.socket.ops ++ w.drain.offers.map .write
      written := w.socket.written ++ w.drain.taken }
    context := { w.context with frame := { w.context.frame with outBuffer := w.drain.rest } } }

@[simp] theorem attempt_writeOutBuffer (w : WebSocket) :
    (onCodec FrameSocket.writeOutBuffer).attempt w = (w.drain.result, w.drained) := by
  rw [onCodec, EStateM.attempt_zoom, FrameSocket.attempt_writeOutBuffer]
  rfl

@[simp] theorem output_buffered (f : Frame) (w : WebSocket) :
    (w.buffered f).output = w.output ++ (w.masked f).format :=
  (List.append_assoc _ _ _).symm

theorem replies_buffered (f : Frame) (w : WebSocket) (h : w.replyEnd ≤ w.output.length) :
    (w.buffered f).replyEnd ≤ (w.buffered f).output.length := by
  rw [output_buffered, List.length_append]
  exact h.trans (Nat.le_add_right _ _)

@[simp] theorem output_drained (w : WebSocket) : w.drained.output = w.output := by
  show w.socket.written ++ w.drain.taken ++ w.drain.rest = _
  rw [List.append_assoc, drain, FrameCodec.drain_append]
  rfl

/-! ## `buffer_frame` -/

theorem attempt_bufferFrame (f : Frame) (w : WebSocket) :
    (bufferFrame f).attempt w =
      (checkConnectionReset w.context.state
        ((onCodec (FrameSocket.bufferFrame (w.masked f))).attempt w.drawMask).1,
        ((onCodec (FrameSocket.bufferFrame (w.masked f))).attempt w.drawMask).2) :=
  EStateM.attempt_ofExcept _ _

/-- Without room, nothing is put into the buffer. -/
theorem bufferFrame_full (h : ¬ w.Fits f) :
    (bufferFrame f).attempt w = (.error (.writeBufferFull (.frame (w.masked f))), w.drawMask) := by
  have hcodec : (onCodec (FrameSocket.bufferFrame (w.masked f))).attempt w.drawMask =
      (.error (.writeBufferFull (.frame (w.masked f))), w.drawMask) := by
    have hfits : ¬ w.drawMask.frameSocket.Fits (w.masked f) := h
    rw [onCodec, EStateM.attempt_zoom, FrameSocket.bufferFrame_full hfits]
    rfl
  rw [attempt_bufferFrame, hcodec]
  rfl

/-- With room and little in the buffer, nothing is written. -/
theorem bufferFrame_small (h : w.Fits f)
    (hsmall : ¬ w.context.frame.outBufferWriteLen < (w.buffered f).context.frame.outBuffer.length) :
    (bufferFrame f).attempt w = (.ok (), w.buffered f) := by
  have hcodec : (onCodec (FrameSocket.bufferFrame (w.masked f))).attempt w.drawMask =
      (.ok (), w.buffered f) := by
    have hfits : w.drawMask.frameSocket.Fits (w.masked f) := h
    rw [onCodec, EStateM.attempt_zoom, FrameSocket.bufferFrame_small hfits hsmall]
    rfl
  rw [attempt_bufferFrame, hcodec]
  rfl

/-- With room and much in the buffer, it is written. -/
theorem bufferFrame_large (h : w.Fits f)
    (hlarge : w.context.frame.outBufferWriteLen <
      (w.buffered f).context.frame.outBuffer.length) :
    (bufferFrame f).attempt w =
      (checkConnectionReset w.context.state (w.buffered f).drain.result,
        (w.buffered f).drained) := by
  have hcodec : (onCodec (FrameSocket.bufferFrame (w.masked f))).attempt w.drawMask =
      ((w.buffered f).drain.result, (w.buffered f).drained) := by
    have hfits : w.drawMask.frameSocket.Fits (w.masked f) := h
    rw [onCodec, EStateM.attempt_zoom, FrameSocket.bufferFrame_large hfits hlarge]
    rfl
  rw [attempt_bufferFrame, hcodec]

/-! ## What writing has in common -/

/-- What becomes of `additionalSend` while it waits: a client may have masked it. -/
inductive Stays (role : Role) : Option Frame → Option Frame → Prop
  | same {a : Option Frame} : Stays role a a
  | masked {f f' : Frame} (h : Goes role f f') : Stays role (some f) (some f')

theorem Stays.trans {role : Role} {a b c : Option Frame} (hab : Stays role a b)
    (hbc : Stays role b c) : Stays role a c := by
  cases hab with
  | same => exact hbc
  | masked h =>
      cases hbc with
      | same => exact .masked h
      | masked h' => exact .masked (h.trans h')

/-- The frame of `additionalSend` stays or goes out. -/
inductive Moved (w w' : WebSocket) : Prop
  | stays (queued : w'.socket.queued = w.socket.queued) (output : w'.output = w.output)
      (additional : Stays w.context.role w.context.additionalSend w'.context.additionalSend)
  | goes {f f' : Frame} (additional : w.context.additionalSend = some f)
      (goes : Goes w.context.role f f') (queued : w'.socket.queued = w.socket.queued ++ [f'])
      (output : w'.output = w.output ++ f'.format)
      (none : w'.context.additionalSend = Option.none)

/-- **What flushing does, at most**: what has been read stays, the frame of `additionalSend` stays
or goes out, and a connection that is closing may end. -/
structure Flushed (w w' : WebSocket) : Prop where
  input : w'.input = w.input
  state : w'.context.state = w.context.state ∨
    w'.context.state = .terminated ∧ w.context.state.canRead = false
  moved : Moved w w'
  ops : w.socket.ops <+: w'.socket.ops
  replies : w.replyEnd ≤ w.output.length → w'.replyEnd ≤ w'.output.length

theorem role_of_input (h : w'.input = w.input) : w'.context.role = w.context.role :=
  congrArg Input.role h

theorem Moved.trans (hrole : w'.context.role = w.context.role) (h : Moved w w')
    (h' : Moved w' w'') : Moved w w'' := by
  cases h with
  | stays hqueued houtput hstays =>
      cases h' with
      | stays hqueued' houtput' hstays' =>
          rw [hrole] at hstays'
          exact .stays (hqueued'.trans hqueued) (houtput'.trans houtput) (hstays.trans hstays')
      | goes hadditional hgoes hqueued' houtput' hnone =>
          rw [hqueued] at hqueued'
          rw [houtput] at houtput'
          rw [hrole] at hgoes
          rw [hadditional] at hstays
          generalize hbefore : w.context.additionalSend = a at hstays
          cases hstays with
          | same => exact .goes hbefore hgoes hqueued' houtput' hnone
          | masked hfirst => exact .goes hbefore (hfirst.trans hgoes) hqueued' houtput' hnone
  | goes hadditional hgoes hqueued houtput hnone =>
      cases h' with
      | stays hqueued' houtput' hstays' =>
          rw [hnone] at hstays'
          refine .goes hadditional hgoes (hqueued'.trans hqueued) (houtput'.trans houtput) ?_
          generalize w''.context.additionalSend = a at hstays'
          cases hstays'
          rfl
      | goes hadditional' => cases hadditional'.symm.trans hnone

namespace Flushed

theorem refl (w : WebSocket) : Flushed w w :=
  ⟨rfl, .inl rfl, .stays rfl rfl .same, List.prefix_refl _, id⟩

theorem trans (h : Flushed w w') (h' : Flushed w' w'') : Flushed w w'' where
  input := h'.input.trans h.input
  state := by
    rcases h.state with hstate | ⟨hend, hread⟩
    · rw [← hstate]
      exact h'.state
    · rcases h'.state with hstate' | ⟨hend', -⟩
      · exact .inr ⟨hstate'.trans hend, hread⟩
      · exact .inr ⟨hend', hread⟩
  moved := h.moved.trans (role_of_input h.input) h'.moved
  ops := h.ops.trans h'.ops
  replies := fun hw ↦ h'.replies (h.replies hw)

theorem drained (w : WebSocket) : Flushed w w.drained :=
  ⟨rfl, .inl rfl, .stays rfl (output_drained w) .same, List.prefix_append _ _, fun h ↦ by
    rw [output_drained]
    exact h⟩

theorem drawMask (w : WebSocket) : Flushed w w.drawMask :=
  ⟨rfl, .inl rfl, .stays rfl rfl .same, List.prefix_refl _, id⟩

theorem terminated (h : w.context.state.canRead = false) : Flushed w (w.setState .terminated) :=
  ⟨rfl, .inr ⟨rfl, h⟩, .stays rfl rfl .same, List.prefix_refl _, id⟩

theorem recordReply (w : WebSocket) : Flushed w w.recordReply := by
  refine ⟨rfl, .inl rfl, .stays rfl rfl .same, List.prefix_refl _, fun h ↦ ?_⟩
  show (if w.automatic then w.output.length else w.replyEnd) ≤ w.output.length
  split
  · exact Nat.le_refl _
  · exact h

/-- A state that is active stays so. -/
theorem active (h : Flushed w w') (hread : w.context.state.canRead = true) :
    w'.context.state = w.context.state := by
  rcases h.state with hstate | ⟨-, hclosing⟩
  · exact hstate
  · rw [hread] at hclosing
    cases hclosing

end Flushed

/-- **A frame is buffered**: it is refused for want of room, or it is put into the buffer. -/
theorem ensures_bufferFrame (f : Frame) (w : WebSocket) :
    (bufferFrame f).Ensures w fun r w' ↦
      (¬ w.Fits f ∧ r = .error (.writeBufferFull (.frame (w.masked f))) ∧ w' = w.drawMask) ∨
      (w.Fits f ∧ (r = .ok () ∨ r = .error .connectionClosed ∧ w.context.state.canRead = false ∨
        ∃ kind, r = .error (.io kind)) ∧ (w' = w.buffered f ∨ w' = (w.buffered f).drained)) := by
  rw [EStateM.Ensures]
  by_cases hfits : w.Fits f
  · by_cases hlarge :
      w.context.frame.outBufferWriteLen < (w.buffered f).context.frame.outBuffer.length
    · rw [bufferFrame_large hfits hlarge]
      refine .inr ⟨hfits, ?_, .inr rfl⟩
      rcases FrameCodec.drain_rest (w.buffered f).context.frame.outBuffer
        (w.buffered f).socket.answers.writes with ⟨hok, -⟩ | ⟨⟨kind, herror⟩, -⟩
      · refine .inl ?_
        show checkConnectionReset _ (FrameCodec.drain _ _).result = _
        rw [hok]
        rfl
      · show checkConnectionReset _ (FrameCodec.drain _ _).result = _ ∨
          checkConnectionReset _ (FrameCodec.drain _ _).result = _ ∧ _ ∨
          ∃ kind, checkConnectionReset _ (FrameCodec.drain _ _).result = _
        rw [herror, checkConnectionReset]
        split
        · rename_i hreset
          refine .inr (.inl ⟨rfl, ?_⟩)
          rw [Bool.and_eq_true, Bool.not_eq_true'] at hreset
          exact hreset.1
        · exact .inr (.inr ⟨kind, rfl⟩)
    · rw [bufferFrame_small hfits hlarge]
      exact .inr ⟨hfits, .inl rfl, .inl rfl⟩
  · rw [bufferFrame_full hfits]
    exact .inl ⟨hfits, rfl, rfl⟩

/-! ## `_write` and `flush` -/

/-- The frame of `additionalSend` is taken out. -/
def taken (w : WebSocket) : WebSocket := w.setAdditionalSend none w.automatic

/-- The frame has been put back into `additionalSend`. -/
def putBack (f : Frame) (w : WebSocket) : WebSocket :=
  w.drawMask.setAdditionalSend (some (w.masked f)) w.automatic

theorem writeAdditional_none (h : w.context.additionalSend = none) :
    writeAdditional.attempt w = (.ok false, w) := by
  rw [writeAdditional, EStateM.attempt_get_bind, h]
  rfl

theorem writeAdditional_full (h : w.context.additionalSend = some f) (hfull : ¬ w.Fits f) :
    writeAdditional.attempt w = (.ok false, w.putBack f) := by
  have hbuffer : (bufferFrame f).attempt w.taken = _ := bufferFrame_full (w := w.taken) hfull
  rw [writeAdditional, EStateM.attempt_get_bind, h]
  simp only
  rw [EStateM.attempt_set_bind, ← taken.eq_1, EStateM.attempt_tried_bind]
  rw [hbuffer]
  rfl

theorem writeAdditional_fits (h : w.context.additionalSend = some f) (hfits : w.Fits f) :
    writeAdditional.attempt w =
      (((bufferFrame f).attempt w.taken).1.map fun () ↦ true,
        ((bufferFrame f).attempt w.taken).2.recordReply) := by
  rw [writeAdditional, EStateM.attempt_get_bind, h]
  simp only
  rw [EStateM.attempt_set_bind, ← taken.eq_1, EStateM.attempt_tried_bind]
  have hr := ensures_bufferFrame f w.taken
  rw [EStateM.Ensures] at hr
  generalize (bufferFrame f).attempt w.taken = out at hr
  obtain ⟨r, w'⟩ := out
  rcases hr with ⟨hfull, -⟩ | ⟨-, rfl | ⟨rfl, -⟩ | ⟨kind, rfl⟩, -⟩
  · exact absurd hfits hfull
  · rfl
  · rfl
  · rfl

/-- **How flushing ends**: it is done, the connection was closing and is closed, or the stream
has failed. -/
inductive Ended {α : Type} (w : WebSocket) : Except Error α → Prop
  | ok (a : α) : Ended w (.ok a)
  | closed (h : w.context.state.canRead = false) : Ended w (.error .connectionClosed)
  | io (kind : ErrorKind) : Ended w (.error (.io kind))

/-- A call that only flushes. -/
def Flushes {α : Type} (m : Io α) : Prop :=
  ∀ w, m.Ensures w fun r w' ↦ Flushed w w' ∧ Ended w r

/-- Two steps that flush. -/
theorem Flushes.bind {α β : Type} {m : Io α} {f : α → Io β} (hm : Flushes m)
    (hf : ∀ a, Flushes (f a)) : Flushes (m >>= f) := by
  intro w
  refine (hm w).bind ?_ ?_
  · rintro a w' ⟨hflushed, -⟩
    refine (hf a w').mono ?_
    rintro r w'' ⟨hflushed', hended⟩
    refine ⟨hflushed.trans hflushed', ?_⟩
    cases hended with
    | ok b => exact .ok b
    | closed hclosing =>
        refine .closed ?_
        rcases hflushed.state with hstate | ⟨-, hread⟩
        · rwa [hstate] at hclosing
        · exact hread
    | io kind => exact .io kind
  · rintro e w' ⟨hflushed, hended⟩
    refine ⟨hflushed, ?_⟩
    cases hended with
    | closed hclosing => exact .closed hclosing
    | io kind => exact .io kind

theorem Flushes.pure {α : Type} (a : α) : Flushes (Pure.pure a : Io α) :=
  fun w ↦ ⟨.refl w, .ok a⟩

theorem flushes_writeOutBuffer : Flushes (onCodec FrameSocket.writeOutBuffer) := by
  intro w
  rw [EStateM.Ensures, attempt_writeOutBuffer]
  refine ⟨.drained w, ?_⟩
  rcases FrameCodec.drain_rest w.context.frame.outBuffer w.socket.answers.writes with
    ⟨hok, -⟩ | ⟨⟨kind, herror⟩, -⟩
  · show Ended w (FrameCodec.drain _ _).result
    rw [hok]
    exact .ok ()
  · show Ended w (FrameCodec.drain _ _).result
    rw [herror]
    exact .io kind

/-- The stream has been flushed. -/
def streamFlushed (w : WebSocket) : WebSocket :=
  { w with socket := { w.socket with
    answers := { w.socket.answers with flushes := w.socket.answers.flushes.tail }
    ops := w.socket.ops ++ [.flush] } }

theorem attempt_flushStream (w : WebSocket) :
    (onCodec FrameSocket.flushStream).attempt w =
      (((w.socket.answers.flushes.head?).getD (.ok ())).mapError .io, w.streamFlushed) := by
  have hcodec : FrameSocket.flushStream.attempt w.frameSocket =
      (((w.socket.answers.flushes.head?).getD (.ok ())).mapError .io,
        w.streamFlushed.frameSocket) := EStateM.attempt_ofExcept _ _
  rw [onCodec, EStateM.attempt_zoom, hcodec]
  rfl

theorem flushes_flushStream : Flushes (onCodec FrameSocket.flushStream) := by
  intro w
  rw [EStateM.Ensures, attempt_flushStream]
  refine ⟨⟨rfl, .inl rfl, .stays rfl rfl .same, List.prefix_append _ _, id⟩, ?_⟩
  cases (w.socket.answers.flushes.head?).getD (.ok ()) with
  | ok a => exact .ok _
  | error kind => exact .io kind

theorem flushes_writeAdditional : Flushes writeAdditional := by
  intro w
  rw [EStateM.Ensures]
  cases ha : w.context.additionalSend with
  | none =>
      rw [writeAdditional_none ha]
      exact ⟨.refl w, .ok _⟩
  | some f =>
      by_cases hfits : w.Fits f
      · rw [writeAdditional_fits ha hfits]
        have hr := ensures_bufferFrame f w.taken
        rw [EStateM.Ensures] at hr
        generalize (bufferFrame f).attempt w.taken = out at hr
        obtain ⟨r, w'⟩ := out
        have hgoes : Flushed w (w.taken.buffered f) :=
          ⟨rfl, .inl rfl, .goes ha (goes_masked w f) rfl (output_buffered f w.taken) rfl,
            List.prefix_refl _, replies_buffered f w.taken⟩
        rcases hr with ⟨hfull, -⟩ | ⟨-, hr, hw'⟩
        · exact absurd hfits hfull
        · refine ⟨?_, ?_⟩
          · rcases hw' with rfl | rfl
            · exact hgoes.trans (.recordReply _)
            · exact (hgoes.trans (.drained _)).trans (.recordReply _)
          · rcases hr with rfl | ⟨rfl, hclosing⟩ | ⟨kind, rfl⟩
            · exact .ok _
            · exact .closed hclosing
            · exact .io kind
      · rw [writeAdditional_full ha hfits]
        refine ⟨⟨rfl, .inl rfl, .stays rfl rfl ?_, List.prefix_refl _, id⟩, .ok _⟩
        rw [ha]
        exact .masked (goes_masked w f)

/-- What `_write` does after a frame of its own is what it does without one. -/
theorem write_some (f : Frame) : _write (some f) = bufferFrame f >>= fun () ↦ _write none := rfl

theorem write_none : _write none = writeAdditional >>= endIfClosing := rfl

theorem flushes_endIfClosing (shouldFlush : Bool) : Flushes (endIfClosing shouldFlush) := by
  refine fun w ↦ EStateM.Ensures.get_bind (EStateM.Ensures.ite ?_ ?_)
  · rintro ⟨-, hread⟩
    rw [Bool.not_eq_true] at hread
    refine (flushes_writeOutBuffer w).bind ?_ ?_
    · rintro _ w' ⟨hflushed, -⟩
      refine EStateM.Ensures.modify_bind (EStateM.Ensures.throw ⟨?_, .closed hread⟩)
      refine hflushed.trans (.terminated ?_)
      rcases hflushed.state with hstate | ⟨hend, -⟩
      · rwa [hstate]
      · rw [hend]
        rfl
    · rintro e w' ⟨hflushed, hended⟩
      refine ⟨hflushed, ?_⟩
      cases hended with
      | closed hclosing => exact .closed hclosing
      | io kind => exact .io kind
  · intro _
    exact Flushes.pure shouldFlush w

theorem flushes_write : Flushes (_write none) := by
  rw [write_none]
  exact flushes_writeAdditional.bind flushes_endIfClosing

/-- **`flush` only flushes.** -/
theorem flushes_flush : Flushes flush :=
  flushes_write.bind fun _ ↦ flushes_writeOutBuffer.bind fun _ ↦ flushes_flushStream

/-- What `noBlock` makes of an outcome. -/
def blockIgnored : Except Error Unit → Except Error Unit
  | .error (.io .wouldBlock) => .ok ()
  | r => r

theorem attempt_noBlock (m : Io Unit) (w : WebSocket) :
    (noBlock m).attempt w = (blockIgnored (m.attempt w).1, (m.attempt w).2) := by
  show EStateM.attempt (match (m.attempt w).1 with
    | .error (.io .wouldBlock) => pure () | r => EStateM.ofExcept r) (m.attempt w).2 = _
  rw [blockIgnored.eq_def]
  split
  · rfl
  · rw [EStateM.attempt_ofExcept]

theorem flushes_noBlock {m : Io Unit} (hm : Flushes m) : Flushes (noBlock m) := by
  intro w
  have h := hm w
  rw [EStateM.Ensures] at h ⊢
  rw [attempt_noBlock]
  refine ⟨h.1, ?_⟩
  generalize (m.attempt w).1 = r at h
  cases h.2 with
  | ok a => exact .ok a
  | closed hclosing => exact .closed hclosing
  | io kind =>
      rw [blockIgnored.eq_def]
      split
      · exact .ok ()
      · exact .io kind

/-- **Before it reads, `read` only flushes.** -/
theorem flushes_beforeRead : Flushes beforeRead := by
  intro w
  refine EStateM.Ensures.get_bind (EStateM.Ensures.ite ?_ ?_)
  · exact fun _ ↦ flushes_noBlock flushes_flush w
  · refine fun _ ↦ EStateM.Ensures.ite ?_ ?_
    · rintro ⟨-, hread⟩
      rw [Bool.not_eq_true] at hread
      exact ⟨.terminated hread, .closed hread⟩
    · exact fun _ ↦ Flushes.pure () w

/-! ## `write` -/

theorem isActive_iff {state : WebSocketState} : state.isActive = true ↔ state = .active := by
  cases state with
  | active => exact ⟨fun _ ↦ rfl, fun _ ↦ rfl⟩
  | closedByUs => exact ⟨nofun, nofun⟩
  | closedByPeer => exact ⟨nofun, nofun⟩
  | closeAcknowledged => exact ⟨nofun, nofun⟩
  | terminated => exact ⟨nofun, nofun⟩

/-- What `write` does in a connection that is active. -/
theorem attempt_write_active (h : w.context.state = .active) (message : Message) :
    (write message).attempt w = EStateM.attempt (match message with
      | .text data => writeFrame (.message (Utf8.encode data) .text true)
      | .binary buffer => writeFrame (.message buffer .binary true)
      | .ping buffer => writeFrame (.ping buffer)
      | .pong buffer => do
          setAdditional (.pong buffer) false
          let _ ← _write none
      | .close code => close code
      | .frame f => writeFrame f) w := by
  show EStateM.attempt (EStateM.ofExcept w.context.state.checkNotTerminated >>= fun _ ↦
    if ¬ w.context.state.isActive then _ else _) w = _
  rw [h]
  rfl

/-- In a connection that is not active, nothing is written. -/
theorem attempt_write_inactive (h : w.context.state ≠ .active) (message : Message) :
    ∃ e, (e = .alreadyClosed ∨ e = .protocol .sendAfterClosing) ∧
      (write message).attempt w = (.error e, w) := by
  have hnot : ¬ w.context.state.isActive := fun hactive ↦ h (isActive_iff.1 hactive)
  have hattempt : (write message).attempt w =
      (EStateM.ofExcept w.context.state.checkNotTerminated >>= fun _ ↦
        (throw (.protocol .sendAfterClosing) : Io Unit)).attempt w := by
    show EStateM.attempt (EStateM.ofExcept w.context.state.checkNotTerminated >>= fun _ ↦
      if ¬ w.context.state.isActive then _ else _) w = _
    rw [if_pos hnot]
  rw [hattempt]
  cases w.context.state with
  | terminated => exact ⟨_, .inl rfl, rfl⟩
  | active => exact ⟨_, .inr rfl, rfl⟩
  | closedByUs => exact ⟨_, .inr rfl, rfl⟩
  | closedByPeer => exact ⟨_, .inr rfl, rfl⟩
  | closeAcknowledged => exact ⟨_, .inr rfl, rfl⟩

end WebSocket

end Ws

end MessageIo
