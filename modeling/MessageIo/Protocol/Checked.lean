import MessageIo.Protocol.Packet

/-!
# No panic in a WebSocket

The context once more, with everything in it that could panic: the codec reads packets through a
cursor, sizes are subtracted from each other, `unwrap` is called and branches are there that
should not be reached.  Such a place ends a call with a `Halt`.

`never_panics` says that no call ends so, whatever the peer sends, however it is cut, and
whatever has failed before.  For this the checked context is compared with the other one:
seen through `view`, it does the same (`simulates_call`), and of that it is known what its calls
return.
-/

namespace MessageIo

namespace Ws

namespace Checked

/-! ## Frames, with their checks -/

/-- Add more data to an existing message. -/
def extend (u : Utf8Crate) (m : IncompleteMessage) (tail : Bytes) (sizeLimit : Option Nat) :
    Except Error Unit × IncompleteMessage :=
  -- Always have a max size.
  let maxSize := sizeLimit.getD usizeMax
  let tooLong := Error.messageTooLong (m.len + tail.length) maxSize
  -- Be careful about integer overflows here.
  if maxSize < m.len then (.error tooLong, m)
  else
    match checkedSub maxSize m.len with
    | .error e => (.error e, m)
    | .ok room =>
        if room < tail.length then (.error tooLong, m)
        else
          match m with
          | .binary buffer => (.ok (), .binary (buffer ++ tail))
          | .text t => ((t.extend u tail).1, .text (t.extend u tail).2)

/-- `read_u16` of a packet, which must have two bytes. -/
def readU16 : Bytes → Except Error (UInt16 × Bytes)
  | a :: b :: rest => .ok (UInt16.ofNat (BigEndian.decode [a, b]), rest)
  | _ => .error (.halt (.panic .slice))

/-- Consume the frame into a closing frame. -/
def intoClose (f : Frame) : Except Error (Option CloseFrame) :=
  if f.payload.length = 0 then .ok none
  else if f.payload.length = 1 then .error (.protocol .invalidCloseSequence)
  else do
    let (code, reason) ← readU16 f.payload
    return some ⟨.ofU16 code, reason⟩

/-- A control frame has been read. -/
def controlFrame (ctl : Control) (frame : Frame) : WebSocket.Io (Option Message) :=
  if ¬ frame.header.isFinal then throw (.protocol .fragmentedControlFrame)
  else if 125 < frame.payload.length then throw (.protocol .controlFrameTooBig)
  else
    match ctl with
    | .close => do
        let close ← EStateM.ofExcept (intoClose frame)
        let reply ← WebSocket.doClose close
        return reply.map .close
    | .reserved i => throw (.protocol (.unknownControlFrameType i))
    | .ping => do
        let w ← get
        -- No ping processing after we sent a close frame.
        if w.context.state.isActive then WebSocket.setAdditional (.pong frame.payload) true
        else pure ()
        return some (.ping frame.payload)
    | .pong => return some (.pong frame.payload)

/-- The type of a message that begins: text or binary, or the caller has a bug. -/
def messageType : Data → Except Error IncompleteMessageType
  | .text => .ok .text
  | .binary => .ok .binary
  | _ => .error (.halt (.panic .assertion))

/-- The incomplete message is taken, which must be there, and completed. -/
def takeIncomplete : WebSocket.Io (Option Message) := do
  let w ← get
  set (w.setIncomplete none)
  match w.context.incomplete with
  | none => throw (.halt (.panic .unwrap))
  | some msg => EStateM.ofExcept (msg.complete.map some)

/-- The first frame of a message has been read. -/
def firstFragment (u : Utf8Crate) (d : Data) (frame : Frame) : WebSocket.Io (Option Message) := do
  let w ← get
  let type ← EStateM.ofExcept (messageType d)
  let out := extend u (.new type) frame.payload w.context.config.maxMessageSize
  EStateM.ofExcept out.1
  if frame.header.isFinal then EStateM.ofExcept (out.2.complete.map some)
  else
    set (w.setIncomplete (some out.2))
    return none

/-- A data frame has been read. -/
def dataFrame (u : Utf8Crate) (d : Data) (frame : Frame) : WebSocket.Io (Option Message) := do
  let w ← get
  match d, w.context.incomplete with
  | .«continue», some msg =>
      let out := extend u msg frame.payload w.context.config.maxMessageSize
      set (w.setIncomplete (some out.2))
      EStateM.ofExcept out.1
      if frame.header.isFinal then takeIncomplete else return none
  | .«continue», none => throw (.protocol .unexpectedContinueFrame)
  | c, some _ => throw (.protocol (.expectedFragment c))
  | .text, none => firstFragment u .text frame
  | .binary, none => firstFragment u .binary frame
  | .reserved i, none => throw (.protocol (.unknownDataFrameType i))

/-- The part of `read_message_frame` that deals with a frame. -/
def processFrame (u : Utf8Crate) (frame : Frame) : WebSocket.Io (Option Message) := do
  let w ← get
  if ¬ w.context.state.canRead then throw (.protocol .receivedAfterClosing)
  else if frame.header.rsv1 ∨ frame.header.rsv2 ∨ frame.header.rsv3 then
    throw (.protocol .nonZeroReservedBits)
  else
    let frame ← EStateM.ofExcept
      (WebSocket.unmask w.context.role w.context.config.acceptUnmaskedFrames frame)
    match frame.header.opcode with
    | .control ctl => controlFrame ctl frame
    | .data d => dataFrame u d frame

/-! ### The checks are passed -/

variable {u : Utf8Crate} {w : WebSocket}

theorem extend_eq (m : IncompleteMessage) (tail : Bytes) (limit : Option Nat) :
    extend u m tail limit = m.extend u tail limit := by
  rw [extend.eq_def, IncompleteMessage.extend.eq_def]
  by_cases hfull : limit.getD usizeMax < m.len
  · simp only [if_pos hfull, if_pos (Or.inl hfull)]
  · have hsub := checkedSub_of_le (Nat.le_of_not_lt hfull)
    by_cases hroom : limit.getD usizeMax - m.len < tail.length
    · simp only [if_neg hfull, hsub, if_pos hroom, if_pos (Or.inr hroom)]
    · have hnot : ¬ (limit.getD usizeMax < m.len ∨ limit.getD usizeMax - m.len < tail.length) :=
        fun h ↦ h.elim hfull hroom
      cases m with
      | text t => simp only [if_neg hfull, hsub, if_neg hroom, if_neg hnot]
      | binary buffer => simp only [if_neg hfull, hsub, if_neg hroom, if_neg hnot]

theorem intoClose_eq (f : Frame) : intoClose f = f.intoClose := by
  obtain ⟨header, payload⟩ := f
  rcases payload with _ | ⟨a, _ | ⟨b, reason⟩⟩
  · rfl
  · rfl
  · rfl

theorem controlFrame_eq (ctl : Control) (f : Frame) :
    controlFrame ctl f = WebSocket.controlFrame ctl f := by
  have hclose := intoClose_eq f
  cases ctl with
  | close =>
      unfold controlFrame WebSocket.controlFrame
      split <;> simp only [hclose]
  | ping => rfl
  | pong => rfl
  | reserved => rfl

theorem setIncomplete_self {incomplete : Option IncompleteMessage}
    (h : w.context.incomplete = incomplete) : w.setIncomplete incomplete = w := by
  rw [← h]
  rfl

/-- What the other context does with the first frame of a message. -/
theorem attempt_firstFragment (h : w.context.incomplete = none) {d : Data}
    {type : IncompleteMessageType} (hd : messageType d = .ok type) (f : Frame) :
    let out := WebSocket.firstFragment u w.context.config.maxMessageSize type f
    (firstFragment u d f).attempt w = (out.1, w.setIncomplete out.2) := by
  have hself := setIncomplete_self h
  show EStateM.attempt (EStateM.ofExcept (messageType d) >>= _) w = _
  rw [hd, EStateM.attempt_bind_ok (EStateM.attempt_ofExcept _ w), WebSocket.firstFragment]
  simp only [extend_eq]
  generalize (IncompleteMessage.new type).extend u f.payload _ = out
  obtain ⟨r, m⟩ := out
  cases r with
  | error e =>
      rw [hself]
      rfl
  | ok a =>
      cases a
      cases f.header.isFinal with
      | true =>
          rw [EStateM.attempt_bind_ok (EStateM.attempt_ofExcept _ w)]
          show (EStateM.ofExcept (m.complete.map some) : WebSocket.Io _).attempt w =
            (m.complete.map some, w.setIncomplete none)
          rw [EStateM.attempt_ofExcept, hself]
      | false => rfl

theorem attempt_dataFrame (d : Data) (f : Frame) :
    let out := WebSocket.dataFrame u w.context.config.maxMessageSize w.context.incomplete d f
    (dataFrame u d f).attempt w = (out.1, w.setIncomplete out.2) := by
  show EStateM.attempt (match d, w.context.incomplete with
    | .«continue», some msg => _
    | .«continue», none => _
    | c, some _ => _
    | .text, none => _
    | .binary, none => _
    | .reserved i, none => _) w = _
  cases hincomplete : w.context.incomplete with
  | none =>
      have hself := setIncomplete_self hincomplete
      cases d with
      | «continue» => exact Prod.ext rfl hself.symm
      | text => exact attempt_firstFragment hincomplete rfl f
      | binary => exact attempt_firstFragment hincomplete rfl f
      | reserved i => exact Prod.ext rfl hself.symm
  | some msg =>
      have hself := setIncomplete_self hincomplete
      cases d with
      | text => exact Prod.ext rfl hself.symm
      | binary => exact Prod.ext rfl hself.symm
      | reserved i => exact Prod.ext rfl hself.symm
      | «continue» =>
          rw [WebSocket.dataFrame]
          simp only [extend_eq]
          generalize msg.extend u f.payload _ = out
          obtain ⟨r, m⟩ := out
          cases r with
          | error e => rfl
          | ok a =>
              cases a
              cases f.header.isFinal with
              | true => exact EStateM.attempt_ofExcept (m.complete.map some) (w.setIncomplete none)
              | false => rfl

/-- **The checks are passed**: a frame is dealt with as by the other context. -/
theorem attempt_processFrame (f : Frame) :
    (processFrame u f).attempt w = (WebSocket.processFrame u f).attempt w := by
  show EStateM.attempt (if ¬ w.context.state.canRead then _ else _) w =
    EStateM.attempt (if ¬ w.context.state.canRead then _ else _) w
  split
  · rfl
  · split
    · rfl
    · rw [EStateM.attempt_bind, EStateM.attempt_bind, EStateM.attempt_ofExcept]
      cases WebSocket.unmask w.context.role w.context.config.acceptUnmaskedFrames f with
      | error e => rfl
      | ok f =>
          simp only
          cases f.header.opcode with
          | control ctl => exact congrArg (EStateM.attempt · w) (controlFrame_eq ctl f)
          | data d =>
              refine (attempt_dataFrame d f).trans ?_
              exact (EStateM.attempt_ofExcept _ _).symm

end Checked

/-! ## The checked context -/

/-- A `WebSocket` whose codec reads packets: what `decoder` holds stands in place of the buffer of
input and the header of the codec of `socket`, which are not used. -/
structure Checked where
  socket : WebSocket
  decoder : Decoder

namespace Checked

/-- What a checked `WebSocket` is without its packets. -/
def view (s : Checked) : WebSocket :=
  { s.socket with context := { s.socket.context with
    frame := s.decoder.codec s.socket.context.frame } }

/-- The cursor stands in the packet. -/
def Valid (s : Checked) : Prop := s.decoder.inBuffer.Valid

/-- Convert a raw socket, of which a part has been read, into a WebSocket. -/
def fromPartiallyRead (stream : Socket) (part : Packet) (role : Role)
    (config : Option WebSocketConfig) : Except Halt Checked := do
  let socket ← WebSocket.fromPartiallyRead stream part.unread role config
  return ⟨socket, ⟨part, none⟩⟩

/-- Code that works on a checked `WebSocket`. -/
abbrev Io (α : Type) := EStateM Error Checked α

/-- Code that does not look at the buffer of input. -/
def onSocket {α : Type} (m : WebSocket.Io α) : Io α :=
  m.zoom view fun socket s ↦ { s with socket }

def onDecoder {α : Type} (m : Decoder.Io α) : Io α :=
  m.zoom decoder fun decoder s ↦ { s with decoder }

/-- The stream has been read so often, and has so many answers left. -/
def readFrom (reads : List ReadCall) (count : Nat) (w : WebSocket) : WebSocket :=
  { w with socket := { w.socket with
    answers := { w.socket.answers with reads }
    ops := w.socket.ops ++ List.replicate count .read } }

/-- Read a frame from the provided stream. -/
def readFrame (net : PacketCrate) (maxSize : Option Nat) : Io (Option Frame) := do
  let s ← get
  let out := s.decoder.readLoop net (maxSize.getD usizeMax) s.socket.socket.answers.reads
  set (⟨readFrom out.reads out.count s.socket, out.decoder⟩ : Checked)
  match ← EStateM.ofExcept out.result with
  | none => return none
  | some payload =>
      let frame ← onDecoder (Decoder.takeFrame payload)
      return some frame

/-- Try to decode one message frame.  May return none. -/
def readMessageFrame (net : PacketCrate) (u : Utf8Crate) : Io (Option Message) := do
  let s ← get
  let context := s.socket.context
  let r ← (readFrame net context.config.maxFrameSize).tried
  match ← EStateM.ofExcept (checkConnectionReset context.state r) with
  | some frame => onSocket (processFrame u frame)
  | none => onSocket WebSocket.closedByStream

/-- The loop of `read`, as long as the fuel lasts. -/
def readLoop (net : PacketCrate) (u : Utf8Crate) : Nat → Io Message
  | 0 => throw (.halt .running)
  | fuel + 1 => do
      onSocket WebSocket.beforeRead
      match ← readMessageFrame net u with
      | some message => return message
      | none => readLoop net u fuel

/-- Read a message from the provided stream, if possible. -/
def read (net : PacketCrate) (u : Utf8Crate) : Io Message := do
  let s ← get
  -- Do not read from already closed connections.
  EStateM.ofExcept s.socket.context.state.checkNotTerminated
  readLoop net u s.view.readFuel

/-- A call, which returns a message if it reads one. -/
def call (net : PacketCrate) (u : Utf8Crate) : Call → Io (Option Message)
  | .read => do
      let message ← read net u
      return some message
  | .write message => do
      onSocket (WebSocket.write message)
      return none
  | .flush => do
      onSocket WebSocket.flush
      return none
  | .close code => do
      onSocket (WebSocket.close code)
      return none

/-- A call is answered so from here on. -/
def answered (answers : Answers) (s : Checked) : Checked :=
  { s with socket := s.socket.answered answers }

/-- A call with its answers: what it returns, and what the `WebSocket` is then. -/
def perform (net : PacketCrate) (u : Utf8Crate) (a : Call × Answers) (s : Checked) :
    Except Error (Option Message) × Checked :=
  (call net u a.1).attempt (s.answered a.2)

/-- A call is a step of a run, whatever it returns. -/
def step (net : PacketCrate) (u : Utf8Crate) (s : Checked) (a : Call × Answers) : Option Checked :=
  some (s.perform net u a).2

/-! ## What does not look at the input -/

/-- A call does not end in a halt. -/
def NoHalt {α : Type} (r : Except Error α) : Prop := ∀ halt, r ≠ .error (.halt halt)

/-- **Code that leaves the input of the codec alone**, and does not end in a halt. -/
def Sound {α : Type} (m : WebSocket.Io α) : Prop :=
  ∀ w : WebSocket, m.Ensures w fun r w' ↦
    NoHalt r ∧ w.context.frame.SameInput w'.context.frame

variable {s : Checked}

theorem NoHalt.ok {α : Type} (a : α) : NoHalt (.ok a) := fun _ h ↦ nomatch h

theorem NoHalt.error {α β : Type} {e : Error} (h : NoHalt (.error e : Except Error α)) :
    NoHalt (.error e : Except Error β) := by
  rintro halt ⟨⟩
  exact h halt rfl

theorem Sound.bind {α β : Type} {m : WebSocket.Io α} {f : α → WebSocket.Io β} (hm : Sound m)
    (hf : ∀ a, Sound (f a)) : Sound (m >>= f) := by
  intro w
  refine (hm w).bind ?_ ?_
  · rintro a w' ⟨-, hw'⟩
    refine (hf a w').mono fun r w'' ⟨hr, hw''⟩ ↦ ⟨hr, ?_⟩
    exact ⟨hw''.inBuffer.trans hw'.inBuffer, hw''.header.trans hw'.header⟩
  · rintro e w' ⟨he, hw'⟩
    exact ⟨he.error, hw'⟩

theorem sameInput_of_input {w w' : WebSocket} (h : w'.input = w.input) :
    w.context.frame.SameInput w'.context.frame :=
  ⟨congrArg WebSocket.Input.inBuffer h, congrArg WebSocket.Input.header h⟩

theorem sound_flushes {α : Type} {m : WebSocket.Io α} (hm : WebSocket.Flushes m) : Sound m := by
  intro w
  refine (hm w).mono fun r w' ⟨hflushed, hended⟩ ↦ ⟨?_, sameInput_of_input hflushed.input⟩
  cases hended with
  | ok a => exact NoHalt.ok a
  | closed => exact fun _ h ↦ nomatch h
  | io kind => exact fun _ h ↦ nomatch h

theorem sound_bufferFrame (f : Frame) : Sound (WebSocket.bufferFrame f) := by
  refine fun w ↦ (WebSocket.ensures_bufferFrame f w).mono ?_
  rintro r w' (⟨-, rfl, rfl⟩ | ⟨-, hr, hw'⟩)
  · exact ⟨(fun _ h ↦ nomatch h), rfl, rfl⟩
  · refine ⟨?_, ?_⟩
    · rcases hr with rfl | ⟨rfl, -⟩ | ⟨kind, rfl⟩
      · exact NoHalt.ok _
      · exact fun _ h ↦ nomatch h
      · exact fun _ h ↦ nomatch h
    · rcases hw' with rfl | rfl
      · exact ⟨rfl, rfl⟩
      · exact ⟨rfl, rfl⟩

theorem sound_write (data : Option Frame) : Sound (WebSocket._write data) := by
  cases data with
  | none => exact sound_flushes WebSocket.flushes_write
  | some f =>
      rw [WebSocket.write_some]
      exact (sound_bufferFrame f).bind fun _ ↦ sound_flushes WebSocket.flushes_write

theorem sound_flush : Sound WebSocket.flush := sound_flushes WebSocket.flushes_flush

theorem sound_pure {α : Type} (a : α) : Sound (pure a) := fun _ ↦ ⟨NoHalt.ok a, rfl, rfl⟩

theorem sound_writeFrame (f : Frame) : Sound (WebSocket.writeFrame f) := by
  refine (sound_write (some f)).bind fun shouldFlush ↦ ?_
  cases shouldFlush with
  | true => exact sound_flush
  | false => exact sound_pure ()

theorem sound_close (code : Option CloseFrame) : Sound (WebSocket.close code) := by
  refine fun w ↦ EStateM.Ensures.get_bind (EStateM.Ensures.ite ?_ fun _ ↦ sound_flush w)
  intro _
  have hclose : Sound (WebSocket._write (Frame.close code) >>= fun _ ↦ WebSocket.flush) :=
    (sound_write _).bind fun _ ↦ sound_flush
  exact EStateM.Ensures.set_bind (hclose (w.setState .closedByUs))

theorem sound_setAdditional (add : Frame) (automatic : Bool) :
    Sound (WebSocket.setAdditional add automatic) := by
  intro w
  rw [EStateM.Ensures, WebSocket.attempt_setAdditional]
  split
  · exact ⟨NoHalt.ok _, rfl, rfl⟩
  · exact ⟨NoHalt.ok _, rfl, rfl⟩

theorem sound_writeMessage (message : Message) : Sound (WebSocket.write message) := by
  intro w
  rw [EStateM.Ensures]
  by_cases hstate : w.context.state = .active
  · rw [WebSocket.attempt_write_active hstate]
    cases message with
    | text data => exact sound_writeFrame _ w
    | binary buffer => exact sound_writeFrame _ w
    | ping buffer => exact sound_writeFrame _ w
    | pong buffer =>
        have hrest : Sound (WebSocket._write none >>= fun _ ↦ (pure () : WebSocket.Io Unit)) :=
          (sound_write none).bind fun _ ↦ sound_pure ()
        exact (sound_setAdditional (.pong buffer) false).bind (fun _ ↦ hrest) w
    | close code => exact sound_close code w
    | frame f => exact sound_writeFrame f w
  · obtain ⟨e, he, hattempt⟩ := WebSocket.attempt_write_inactive hstate message
    rw [hattempt]
    refine ⟨?_, rfl, rfl⟩
    rcases he with rfl | rfl
    · rintro halt ⟨⟩
    · rintro halt ⟨⟩

/-! ## Frames do not end in a halt -/

theorem noHalt_of_judged {α : Type} {r : Except Error α} (h : WebSocket.Judged r) : NoHalt r :=
  fun halt hr ↦ h (.halt halt) hr

theorem noHalt_protocol {α : Type} (e : ProtocolError) :
    NoHalt (.error (.protocol e) : Except Error α) := fun _ h ↦ nomatch h

/-- `do_close` is not called for a connection that is terminated. -/
theorem noHalt_doClose (h : w.context.state.canRead = true) (close : Option CloseFrame) :
    (WebSocket.doClose close).Ensures w fun r _ ↦ NoHalt r := by
  refine EStateM.Ensures.get_bind ?_
  cases hstate : w.context.state with
  | active =>
      have hreply : Sound (WebSocket.answer (Frame.close (close.map CloseFrame.checked)) >>=
          fun _ ↦ pure (some (close.map CloseFrame.checked))) := by
        cases Frame.close (close.map CloseFrame.checked) with
        | none => exact sound_pure _
        | some reply => exact (sound_setAdditional reply true).bind fun _ ↦ sound_pure _
      exact EStateM.Ensures.set_bind ((hreply (w.setState .closedByPeer)).mono fun _ _ h ↦ h.1)
  | closedByUs => exact NoHalt.ok _
  | closedByPeer => exact NoHalt.ok _
  | closeAcknowledged => exact NoHalt.ok _
  | terminated =>
      rw [hstate] at h
      cases h

theorem noHalt_controlFrame (h : w.context.state.canRead = true) (ctl : Control) (f : Frame) :
    (WebSocket.controlFrame ctl f).Ensures w fun r _ ↦ NoHalt r := by
  refine EStateM.Ensures.ite (fun _ ↦ noHalt_protocol _) fun _ ↦
    EStateM.Ensures.ite (fun _ ↦ noHalt_protocol _) fun _ ↦ ?_
  cases ctl with
  | close =>
      refine EStateM.Ensures.bind (R := fun r w' ↦ r = f.intoClose ∧ w' = w)
        (EStateM.Ensures.ofExcept ⟨rfl, rfl⟩) ?_ ?_
      · rintro close _ ⟨-, rfl⟩
        exact (noHalt_doClose h close).bind (fun _ _ _ ↦ NoHalt.ok _) fun e _ he ↦ he.error
      · rintro e _ ⟨he, -⟩
        rw [Frame.intoClose] at he
        split at he
        · cases he
        · cases he
          exact noHalt_protocol _
        · cases he
  | reserved i => exact noHalt_protocol _
  | ping =>
      refine EStateM.Ensures.get_bind (EStateM.Ensures.ite (fun _ ↦ ?_) fun _ ↦ NoHalt.ok _)
      exact ((sound_setAdditional (.pong f.payload) true).bind
        (fun _ ↦ sound_pure (some (Message.ping f.payload))) w).mono fun _ _ h ↦ h.1
  | pong => exact NoHalt.ok _

theorem sound_processFrame (f : Frame) : Sound (WebSocket.processFrame u f) := by
  intro w
  refine EStateM.Ensures.mono (EStateM.Ensures.and (R := fun r w' ↦
    w.context.frame.SameInput w'.context.frame) ?_ ?_) fun _ _ h ↦ h
  · refine EStateM.Ensures.get_bind (EStateM.Ensures.ite (fun _ ↦ noHalt_protocol _) fun hread ↦
      EStateM.Ensures.ite (fun _ ↦ noHalt_protocol _) fun _ ↦ ?_)
    rw [not_not] at hread
    refine EStateM.Ensures.bind (R := fun r w' ↦
      r = WebSocket.unmask w.context.role w.context.config.acceptUnmaskedFrames f ∧ w' = w)
      (EStateM.Ensures.ofExcept ⟨rfl, rfl⟩) ?_ ?_
    · rintro f' _ ⟨-, rfl⟩
      cases f'.header.opcode with
      | control ctl => exact noHalt_controlFrame hread ctl f'
      | data d =>
          exact EStateM.Ensures.set_bind
            (EStateM.Ensures.ofExcept (noHalt_of_judged (WebSocket.judged_dataFrame _ _ _ _)))
    · rintro e _ ⟨he, -⟩
      rw [WebSocket.unmask.eq_def] at he
      split at he
      · split at he
        · cases he
        · split at he
          · cases he
            exact noHalt_protocol _
          · cases he
      · split at he
        · cases he
          exact noHalt_protocol _
        · cases he
  · refine (WebSocket.deals_processFrame f w).mono fun r w' hw' ↦ ?_
    rw [hw'.1.codec.2.1]
    exact ⟨rfl, rfl⟩

theorem sound_closedByStream : Sound WebSocket.closedByStream := by
  intro w
  refine EStateM.Ensures.get_bind (EStateM.Ensures.set_bind ?_)
  cases w.context.state with
  | active => exact ⟨noHalt_protocol _, rfl, rfl⟩
  | closedByUs => exact ⟨noHalt_protocol _, rfl, rfl⟩
  | closedByPeer => exact ⟨(fun _ h ↦ nomatch h), rfl, rfl⟩
  | closeAcknowledged => exact ⟨(fun _ h ↦ nomatch h), rfl, rfl⟩
  | terminated => exact ⟨noHalt_protocol _, rfl, rfl⟩

theorem noHalt_frameRead (w : WebSocket) : NoHalt w.frameRead.result := by
  intro halt h
  rcases FrameCodec.readLoop_error h with ⟨i, he⟩ | ⟨length, he⟩ | ⟨kind, he⟩
  · cases he
  · cases he
  · cases he

theorem noHalt_readMessageFrame (w : WebSocket) :
    (WebSocket.readMessageFrame u).Ensures w fun r _ ↦ NoHalt r := by
  rw [EStateM.Ensures]
  rcases hread : w.frameRead.result with e | _ | f
  · obtain ⟨e', he', hattempt⟩ := WebSocket.readMessageFrame_error (u := u) hread
    have he := noHalt_frameRead w
    rw [hread] at he
    rw [hattempt]
    rw [WebSocket.checkConnectionReset_error] at he'
    cases he'
    split
    · rintro halt ⟨⟩
    · exact he.error
  · rw [WebSocket.readMessageFrame_end hread]
    exact (sound_closedByStream w.received).1
  · rw [WebSocket.readMessageFrame_frame hread]
    exact (sound_processFrame f w.received).1

/-- A call of `read` can only be left running. -/
theorem ensures_readLoop (fuel : Nat) (w : WebSocket) :
    (WebSocket.readLoop u fuel).Ensures w fun r _ ↦ ∀ p, r ≠ .error (.halt (.panic p)) := by
  induction fuel generalizing w with
  | zero => exact fun _ h ↦ nomatch h
  | succ fuel ih =>
      refine (sound_flushes WebSocket.flushes_beforeRead w).bind ?_ ?_
      · rintro _ w' -
        refine (noHalt_readMessageFrame w').bind ?_ ?_
        · rintro message w'' -
          cases message with
          | none => exact ih w''
          | some message => exact fun _ h ↦ nomatch h
        · rintro e w'' he p ⟨⟩
          exact he _ rfl
      · rintro e w' ⟨he, -⟩ p ⟨⟩
        exact he _ rfl

theorem noHalt_read (w : WebSocket) : (WebSocket.read u).Ensures w fun r _ ↦ NoHalt r := by
  have hpanic : (WebSocket.read u).Ensures w fun r _ ↦ ∀ p, r ≠ .error (.halt (.panic p)) := by
    refine EStateM.Ensures.get_bind ?_
    cases hstate : w.context.state.checkNotTerminated with
    | ok a => exact ensures_readLoop _ w
    | error e =>
        rintro p ⟨⟩
        cases h : w.context.state
        all_goals rw [h] at hstate
        all_goals cases hstate
  refine (hpanic.and (WebSocket.read_ne_running w)).mono fun r w' ⟨hpanic, hrunning⟩ halt ↦ ?_
  cases halt with
  | panic p => exact hpanic p
  | running => exact hrunning

/-- **No call of the other context ends in a halt.** -/
theorem noHalt_call (c : Call) (w : WebSocket) :
    (WebSocket.call u c).Ensures w fun r _ ↦ NoHalt r := by
  have hunit : ∀ {m : WebSocket.Io Unit}, Sound m →
      (m >>= fun _ ↦ (pure none : WebSocket.Io (Option Message))).Ensures w fun r _ ↦ NoHalt r :=
    fun hm ↦ ((hm.bind fun _ ↦ sound_pure none) w).mono fun _ _ h ↦ h.1
  cases c with
  | read => exact (noHalt_read w).bind (fun _ _ _ ↦ NoHalt.ok _) fun e _ he ↦ he.error
  | write message => exact hunit (sound_writeMessage message)
  | flush => exact hunit sound_flush
  | close code => exact hunit (sound_close code)

/-! ## The checked context does the same -/

variable {net : PacketCrate}

/-- **The checked context does what the other one does**, and its cursor stays in the packet. -/
def Simulates {α : Type} (m : Io α) (m' : WebSocket.Io α) : Prop :=
  ∀ s : Checked, s.Valid → EStateM.Simulates view Valid m m' s

theorem simulates_onSocket {α : Type} {m m' : WebSocket.Io α}
    (hm : ∀ w, m.attempt w = m'.attempt w) (hs : Sound m') : Simulates (onSocket m) m' := by
  intro s h
  have hview : ∀ w : WebSocket, s.view.context.frame.SameInput w.context.frame →
      w = view { s with socket := w } := by
    rintro ⟨stream, ⟨role, ⟨inBuffer, outBuffer, maxOut, writeLen, header⟩, rest⟩, reply⟩
      ⟨⟨⟩, ⟨⟩⟩
    rfl
  rw [EStateM.Simulates, EStateM.Ensures, onSocket, EStateM.attempt_zoom, hm]
  exact ⟨Prod.ext rfl (hview _ (hs s.view).2), h⟩

/-- The end of `read_frame`, behind the loop. -/
theorem attempt_readFrame {out : Decoder.PayloadRead} {maxSize : Option Nat}
    (h : s.decoder.readLoop net (maxSize.getD usizeMax) s.socket.socket.answers.reads = out) :
    (readFrame net maxSize).attempt s =
      EStateM.attempt (EStateM.ofExcept out.result >>= fun payload ↦ match payload with
        | none => pure none
        | some payload => do
            let frame ← onDecoder (Decoder.takeFrame payload)
            return some frame) ⟨readFrom out.reads out.count s.socket, out.decoder⟩ := by
  rw [← h]
  rfl

/-- **`read_frame` finds its header**, and does what the codec does. -/
theorem simulates_readFrame (hnet : net.Lawful) (h : s.Valid) :
    EStateM.Simulates view Valid (readFrame net s.socket.context.config.maxFrameSize)
      (WebSocket.onCodec (FrameSocket.readFrame s.view.context.config.maxFrameSize)) s := by
  have hspec := Decoder.readLoop_view hnet
    (s.socket.context.config.maxFrameSize.getD usizeMax) s.socket.context.frame
    s.socket.socket.answers.reads h
  obtain ⟨out, hout⟩ : ∃ out, s.decoder.readLoop net
    (s.socket.context.config.maxFrameSize.getD usizeMax) s.socket.socket.answers.reads = out :=
    ⟨_, rfl⟩
  obtain ⟨out', hout'⟩ : ∃ out', s.view.frameRead = out' := ⟨_, rfl⟩
  have hread : (s.decoder.codec s.socket.context.frame).readLoop
    (s.socket.context.config.maxFrameSize.getD usizeMax) s.socket.socket.answers.reads = out' :=
      hout'
  rw [hout, hread] at hspec
  obtain ⟨hends, hvalid, hreads, hcount⟩ := hspec
  rw [EStateM.Simulates, EStateM.Ensures, WebSocket.attempt_readFrame, WebSocket.received,
    attempt_readFrame hout, hout']
  obtain ⟨r, decoder, reads, count⟩ := out
  obtain ⟨r', codec', reads', count'⟩ := out'
  cases hreads
  cases hcount
  cases hends with
  | error e => exact ⟨rfl, hvalid⟩
  | more => exact ⟨rfl, hvalid⟩
  | @payload header payload hheader =>
      have htake : (onDecoder (Decoder.takeFrame payload)).attempt
          ⟨readFrom reads count s.socket, decoder⟩ =
            (.ok ⟨header, payload⟩,
              ⟨readFrom reads count s.socket, { decoder with header := none }⟩) := by
        rw [onDecoder, EStateM.attempt_zoom, Decoder.takeFrame_eq hheader]
      rw [EStateM.attempt_bind_ok (EStateM.attempt_ofExcept _ _)]
      simp only [EStateM.attempt_bind_ok htake]
      exact ⟨rfl, hvalid⟩

theorem simulates_readMessageFrame (hnet : net.Lawful) (u : Utf8Crate) :
    Simulates (readMessageFrame net u) (WebSocket.readMessageFrame u) := by
  intro s h
  refine EStateM.Simulates.get_bind (EStateM.Simulates.bind
    (EStateM.Simulates.tried (simulates_readFrame hnet h)) fun r s' hs' ↦ ?_)
  refine EStateM.Simulates.bind (EStateM.Simulates.ofExcept hs' _) fun frame s'' hs'' ↦ ?_
  cases frame with
  | none => exact simulates_onSocket (fun _ ↦ rfl) sound_closedByStream s'' hs''
  | some f =>
      exact simulates_onSocket (fun _ ↦ attempt_processFrame f) (sound_processFrame f) s'' hs''

theorem simulates_readLoop (hnet : net.Lawful) (u : Utf8Crate) (fuel : Nat) :
    Simulates (readLoop net u fuel) (WebSocket.readLoop u fuel) := by
  induction fuel with
  | zero => exact fun s h ↦ EStateM.Simulates.throw h _
  | succ fuel ih =>
      intro s h
      refine EStateM.Simulates.bind (simulates_onSocket (fun _ ↦ rfl)
        (sound_flushes WebSocket.flushes_beforeRead) s h) fun _ s' hs' ↦ ?_
      refine EStateM.Simulates.bind (simulates_readMessageFrame hnet u s' hs')
        fun message s'' hs'' ↦ ?_
      cases message with
      | none => exact ih s'' hs''
      | some message => exact EStateM.Simulates.pure hs'' message

theorem simulates_read (hnet : net.Lawful) (u : Utf8Crate) :
    Simulates (read net u) (WebSocket.read u) := fun s h ↦
  EStateM.Simulates.get_bind (EStateM.Simulates.bind (EStateM.Simulates.ofExcept h _)
    fun _ s' hs' ↦ simulates_readLoop hnet u s.view.readFuel s' hs')

/-- **A call does what it does without the checks.** -/
theorem simulates_call (hnet : net.Lawful) (u : Utf8Crate) (c : Call) :
    Simulates (call net u c) (WebSocket.call u c) := by
  have hunit : ∀ {m : WebSocket.Io Unit}, Sound m →
      Simulates (onSocket m >>= fun _ ↦ (pure none : Io (Option Message)))
        (m >>= fun _ ↦ pure none) :=
    fun hm s h ↦ EStateM.Simulates.bind (simulates_onSocket (fun _ ↦ rfl) hm s h)
      fun _ _ hs' ↦ EStateM.Simulates.pure hs' none
  cases c with
  | read =>
      exact fun s h ↦ EStateM.Simulates.bind (simulates_read hnet u s h)
        fun message _ hs' ↦ EStateM.Simulates.pure hs' (some message)
  | write message => exact hunit (sound_writeMessage message)
  | flush => exact hunit sound_flush
  | close code => exact hunit (sound_close code)

theorem perform_view (hnet : net.Lawful) (u : Utf8Crate) (a : Call × Answers) (h : s.Valid) :
    s.view.perform u a = ((s.perform net u a).1, (s.perform net u a).2.view) ∧
      (s.perform net u a).2.Valid :=
  simulates_call hnet u a.1 (s.answered a.2) h

/-- **No call of a WebSocket panics.**  Over any run of calls, whatever the stream answers, how the
bytes of the peer are cut, and whatever has failed before: no opcode is out of range, `do_close` is
not called for a connection that is terminated, the header is there when it is taken, nothing is
subtracted from less, and the branches that would be a bug are not reached. -/
theorem never_panics (hnet : net.Lawful) {stream : Socket} {part : Packet} (hpart : part.Valid)
    {role : Role} {config : Option WebSocketConfig} {s₀ : Checked}
    (hnew : fromPartiallyRead stream part role config = .ok s₀)
    (h : Transition.Reach (step net u) (fun _ _ ↦ True) s₀ s) (a : Call × Answers) (halt : Halt) :
    (s.perform net u a).1 ≠ .error (.halt halt) := by
  have hvalid : s.Valid := by
    refine h.invariant ?_ ?_
    · cases hsocket : WebSocket.fromPartiallyRead stream part.unread role config with
      | error halt =>
          rw [fromPartiallyRead, hsocket] at hnew
          cases hnew
      | ok w =>
          rw [fromPartiallyRead, hsocket] at hnew
          cases hnew
          exact hpart
    · rintro s s' a hs - ⟨⟩
      exact (perform_view hnet u a hs).2
  have hcall := noHalt_call (u := u) a.1 (s.view.answered a.2)
  have hview := (perform_view hnet u a hvalid).1
  rw [WebSocket.perform] at hview
  rw [EStateM.Ensures, hview] at hcall
  exact hcall halt

/-- A server that is sent an opcode without a meaning, and is called once more. -/
theorem never_panics_badOpcode :
    ∃ s₀ s, fromPartiallyRead (.new ⟨[], [], [], []⟩) (.ofBytes []) .server none = .ok s₀ ∧
      step .growing .reference s₀ (.read, ⟨[.ok [0x8F, 0x80, 1, 2, 3, 4]], [], [], []⟩) = some s ∧
      ∀ halt, (s.perform .growing .reference (.read, ⟨[.ok [0x88]], [], [], []⟩)).1 ≠
        .error (.halt halt) := by
  refine ⟨_, _, rfl, rfl, fun halt ↦ ?_⟩
  have hnew : fromPartiallyRead (.new ⟨[], [], [], []⟩) (.ofBytes []) .server none = .ok _ := rfl
  exact never_panics PacketCrate.growing_lawful (Nat.zero_le _) hnew (.tail .refl trivial rfl) _
    halt

end Checked

end Ws

end MessageIo
