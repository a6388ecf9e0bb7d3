import MessageIo.Lib.Utf8
import MessageIo.Protocol.Grammar

/-!
# The reason of a close command is a text that nobody has checked

`CloseFrame` keeps its reason as bytes, and `Display` and `Debug` take these bytes for a text with
`from_utf8_unchecked`.  `do_close` writes the command it is given to the log before it does anything
else.  So what a peer sends as a reason has to be UTF-8, or it has to be rejected before.

`Formatting` is a `WebSocket` that keeps the bytes that are taken for a text.  Text messages go
through a `StringCollector`, which checks them, but nothing checks the reason of a Close frame:
reading a Close frame is safe if and only if its reason is UTF-8, or the frame is refused for
another cause (`safe_processFrame`).
-/

namespace MessageIo

namespace Ws

/-- The reason that a Close frame gives: what stands behind the code, without the mask. -/
def Frame.reason (f : Frame) : Bytes := f.applyMask.payload.drop 2

/-- A Close frame with a code is a close command that gives this reason. -/
theorem Frame.intoClose_reason {f : Frame} (h : 2 ≤ f.payload.length) :
    ∃ close, f.applyMask.intoClose = .ok (some close) ∧ close.reason = f.reason := by
  rw [← f.length_payload_applyMask] at h
  rw [intoClose, reason]
  cases hpayload : f.applyMask.payload with
  | nil =>
      rw [hpayload] at h
      cases h
  | cons a rest =>
      cases rest with
      | nil =>
          rw [hpayload] at h
          exact absurd (Nat.le_of_succ_le_succ h) (Nat.not_succ_le_zero 0)
      | cons b rest => exact ⟨_, rfl, rfl⟩

/-- A `WebSocket`, and the bytes that have been taken for a text without a check. -/
structure Formatting where
  socket : WebSocket
  unchecked : List Bytes

namespace Formatting

/-- Code that reads and formats. -/
abbrev Io (α : Type) := EStateM Error Formatting α

/-- What does not format. -/
def onSocket {α : Type} (m : WebSocket.Io α) : Io α :=
  m.zoom Formatting.socket fun socket s ↦ { s with socket }

/-! ## Formatting a close command -/

/-- `str::from_utf8_unchecked` -/
def fromUtf8Unchecked (bytes : Bytes) : Io Bytes := do
  modify fun s ↦ { s with unchecked := s.unchecked ++ [bytes] }
  return bytes

/-- `Display` of a `CloseCode` -/
def displayCode (code : CloseCode) : Bytes := Utf8.encode (toString code.toU16.toNat)

/-- `Display` of a `CloseFrame`: the bytes that are written. -/
def display (close : CloseFrame) : Io Bytes := do
  let reason ← fromUtf8Unchecked close.reason
  return reason ++ Utf8.encode " (" ++ displayCode close.code ++ Utf8.encode ")"

/-- `Debug` of a `CloseFrame` -/
def debug (close : CloseFrame) : Io Bytes := do
  let reason ← fromUtf8Unchecked close.reason
  let string := reason ++ Utf8.encode " (" ++ displayCode close.code ++ Utf8.encode ")"
  return Utf8.encode "CloseFrame::" ++ string

/-- `debug!("Received close frame: {:?}", close)`, which formats if there is a logger for it. -/
def logReceived (logged : Bool) (close : Option CloseFrame) : Io Unit :=
  match logged, close with
  | true, some close => do
      let _ ← debug close
      return ()
  | _, _ => pure ()

/-! ## Reading a frame -/

/-- Received a close frame.  The reply is written to the log by its length only. -/
def doClose (logged : Bool) (close : Option CloseFrame) : Io (Option (Option CloseFrame)) := do
  logReceived logged close
  onSocket (WebSocket.doClose close)

/-- A control frame has been read. -/
def controlFrame (logged : Bool) (ctl : Control) (frame : Frame) : Io (Option Message) :=
  if ¬ frame.header.isFinal then throw (.protocol .fragmentedControlFrame)
  else if 125 < frame.payload.length then throw (.protocol .controlFrameTooBig)
  else
    match ctl with
    | .close => do
        let close ← EStateM.ofExcept frame.intoClose
        let reply ← doClose logged close
        return reply.map .close
    | ctl => onSocket (WebSocket.controlFrame ctl frame)

/-- The part of `read_message_frame` that deals with a frame. -/
def processFrame (logged : Bool) (u : Utf8Crate) (frame : Frame) : Io (Option Message) := do
  let s ← get
  let context := s.socket.context
  if ¬ context.state.canRead then throw (.protocol .receivedAfterClosing)
  else if frame.header.rsv1 ∨ frame.header.rsv2 ∨ frame.header.rsv3 then
    throw (.protocol .nonZeroReservedBits)
  else
    let frame ← EStateM.ofExcept
      (WebSocket.unmask context.role context.config.acceptUnmaskedFrames frame)
    match frame.header.opcode with
    | .control ctl => controlFrame logged ctl frame
    | .data d =>
        let out := WebSocket.dataFrame u context.config.maxMessageSize context.incomplete d frame
        onSocket do
          set (s.socket.setIncomplete out.2)
          EStateM.ofExcept out.1

/-- Try to decode one message frame. -/
def readMessageFrame (logged : Bool) (u : Utf8Crate) : Io (Option Message) := do
  let s ← get
  let context := s.socket.context
  let r ← onSocket
    (WebSocket.onCodec (FrameSocket.readFrame context.config.maxFrameSize)).tried
  match ← EStateM.ofExcept (checkConnectionReset context.state r) with
  | some frame => processFrame logged u frame
  | none => onSocket WebSocket.closedByStream

/-! ## It is the same `WebSocket` -/

/-- A computation does to the `WebSocket` what another does. -/
abbrev Simulates {α : Type} (m : Io α) (m' : WebSocket.Io α) (s : Formatting) : Prop :=
  EStateM.Simulates Formatting.socket (fun _ ↦ True) m m' s

variable {s : Formatting}

theorem simulates_onSocket {α : Type} (m : WebSocket.Io α) : Simulates (onSocket m) m s :=
  EStateM.Simulates.zoom m (fun _ ↦ rfl) fun _ ↦ trivial

/-- What is written to the log does not matter to the `WebSocket`. -/
theorem simulates_logReceived (logged : Bool) (close : Option CloseFrame) :
    Simulates (logReceived logged close) (pure ⟨⟩) s := by
  cases logged with
  | false => exact ⟨rfl, trivial⟩
  | true =>
      cases close with
      | none => exact ⟨rfl, trivial⟩
      | some close => exact ⟨rfl, trivial⟩

theorem simulates_controlFrame (logged : Bool) (ctl : Control) (f : Frame) :
    Simulates (controlFrame logged ctl f) (WebSocket.controlFrame ctl f) s := by
  rw [controlFrame.eq_def]
  split
  · rename_i hfinal
    rw [WebSocket.controlFrame.eq_def, if_pos hfinal]
    exact EStateM.Simulates.throw trivial _
  · rename_i hfinal
    split
    · rename_i hbig
      rw [WebSocket.controlFrame.eq_def, if_neg hfinal, if_pos hbig]
      exact EStateM.Simulates.throw trivial _
    · rename_i hsmall
      cases ctl with
      | close =>
          rw [WebSocket.controlFrame.eq_def, if_neg hfinal, if_neg hsmall]
          refine EStateM.Simulates.bind (EStateM.Simulates.ofExcept trivial _) fun close s _ ↦ ?_
          refine EStateM.Simulates.bind ?_ fun reply s _ ↦ EStateM.Simulates.pure trivial _
          exact EStateM.Simulates.unseen_bind (simulates_logReceived logged close) fun s _ ↦
            simulates_onSocket (WebSocket.doClose close)
      | reserved i => exact simulates_onSocket _
      | ping => exact simulates_onSocket _
      | pong => exact simulates_onSocket _

theorem simulates_processFrame (logged : Bool) (u : Utf8Crate) (f : Frame) :
    Simulates (processFrame logged u f) (WebSocket.processFrame u f) s := by
  refine EStateM.Simulates.get_bind ?_
  simp only
  split
  · exact EStateM.Simulates.throw trivial _
  · split
    · exact EStateM.Simulates.throw trivial _
    · refine EStateM.Simulates.bind (EStateM.Simulates.ofExcept trivial _) fun frame s' _ ↦ ?_
      cases frame.header.opcode with
      | control ctl => exact simulates_controlFrame logged ctl frame
      | data d => exact simulates_onSocket _

/-- **Formatting does not change what is read**, nor what becomes of the `WebSocket`. -/
theorem simulates_readMessageFrame (logged : Bool) (u : Utf8Crate) :
    Simulates (readMessageFrame logged u) (WebSocket.readMessageFrame u) s := by
  refine EStateM.Simulates.get_bind ?_
  refine EStateM.Simulates.bind (simulates_onSocket _) fun r s' _ ↦ ?_
  refine EStateM.Simulates.bind (EStateM.Simulates.ofExcept trivial _) fun frame s'' _ ↦ ?_
  cases frame with
  | some frame => exact simulates_processFrame logged u frame
  | none => exact simulates_onSocket _

/-! ## Whether it is safe -/

/-- **What is taken for a text is one**: what is written to the log, and what `Display` writes of
the close command that is returned.  A frame whose reason is not a text is an error, and nothing of
it is taken for one. -/
structure Safe (reason : Bytes) (out : Except Error (Option Message) × Formatting) : Prop where
  logged : ∀ bytes ∈ out.2.unchecked, Utf8.Valid bytes
  displayed : ∀ close, out.1 = .ok (some (.close (some close))) →
    ∀ bytes ∈ ((display close).attempt ⟨out.2.socket, []⟩).2.unchecked, Utf8.Valid bytes
  rejected : ¬ Utf8.Valid reason → (∃ e, out.1 = .error e) ∧ out.2.unchecked = []

variable {w : WebSocket} {f : Frame}

/-- What fails before anything is formatted is safe. -/
theorem Safe.of_error {reason : Bytes} {e : Error} : Safe reason (.error e, ⟨w, []⟩) where
  logged _ h := absurd h List.not_mem_nil
  displayed _ h := by cases h
  rejected _ := ⟨⟨e, rfl⟩, rfl⟩

/-- A reason that is a text may be formatted, and returned. -/
theorem Safe.of_valid {reason : Bytes} {close : CloseFrame} {unchecked : List Bytes}
    (h : Utf8.Valid reason) (hlogged : ∀ bytes ∈ unchecked, bytes = reason)
    (hclose : close.reason = reason ∨ Utf8.Valid close.reason) :
    Safe reason (.ok (some (.close (some close))), ⟨w, unchecked⟩) := by
  constructor
  · intro bytes hbytes
    rw [hlogged bytes hbytes]
    exact h
  · intro close' hreturned bytes hbytes
    cases hreturned
    have hbytes' : bytes = close.reason := List.mem_singleton.1 hbytes
    rcases hclose with hclose | hclose
    · rw [hbytes', hclose]
      exact h
    · rw [hbytes']
      exact hclose
  · exact fun hinvalid ↦ absurd h hinvalid

/-- A reason that is not a text has been returned. -/
theorem not_safe {reason : Bytes} {message : Option Message} {s : Formatting}
    (h : ¬ Utf8.Valid reason) : ¬ Safe reason (.ok message, s) := by
  intro hsafe
  obtain ⟨⟨e, he⟩, -⟩ := hsafe.rejected h
  cases he

/-- A command is returned where something may be read: itself, or one in its place. -/
theorem doClose_reason (h : w.context.state.canRead = true) (close : CloseFrame) :
    ∃ close' w', (WebSocket.doClose (some close)).attempt w = (.ok (some (some close')), w') ∧
      (close'.reason = close.reason ∨ Utf8.Valid close'.reason) := by
  obtain ⟨close', w', hattempt, -, rfl | rfl⟩ := WebSocket.doClose_canRead h (some close)
  · exact ⟨close, w', hattempt, .inl rfl⟩
  · refine ⟨close.checked, w', hattempt, ?_⟩
    rw [CloseFrame.checked]
    split
    · exact .inr (Utf8.valid_encode _)
    · exact .inl rfl

/-- The log has the reason, if there is a log. -/
theorem attempt_logReceived (logged : Bool) (close : CloseFrame) :
    (logReceived logged (some close)).attempt ⟨w, []⟩ =
      (.ok (), ⟨w, if logged then [close.reason] else []⟩) := by
  cases logged with
  | true => rfl
  | false => rfl

/-- **A Close frame that is not refused is formatted and returned.** -/
theorem attempt_controlFrame (logged : Bool) (h : w.context.state.canRead = true)
    (hfinal : f.header.isFinal = true) (hmin : 2 ≤ f.payload.length)
    (hmax : f.payload.length ≤ 125) :
    ∃ close w', (controlFrame logged .close f.applyMask).attempt ⟨w, []⟩ =
        (.ok (some (.close (some close))), ⟨w', if logged then [f.reason] else []⟩) ∧
      (close.reason = f.reason ∨ Utf8.Valid close.reason) := by
  obtain ⟨close, hclose, hreason⟩ := Frame.intoClose_reason hmin
  obtain ⟨close', w', hdo, hclose'⟩ := doClose_reason h close
  refine ⟨close', w', ?_, hreason ▸ hclose'⟩
  have hfinal' : ¬ ¬ f.applyMask.header.isFinal := by
    rw [(WebSocket.header_applyMask f).2]
    exact not_not_intro hfinal
  have hsmall : ¬ 125 < f.applyMask.payload.length := by
    rw [f.length_payload_applyMask]
    exact Nat.not_lt.2 hmax
  have hlog := @attempt_logReceived w logged close
  have hreturn : (doClose logged (some close)).attempt ⟨w, []⟩ =
      (.ok (some (some close')), ⟨w', if logged then [f.reason] else []⟩) := by
    rw [doClose, EStateM.attempt_bind_ok hlog, onSocket, EStateM.attempt_zoom, hdo, hreason]
  rw [controlFrame, if_neg hfinal', if_neg hsmall, hclose]
  exact EStateM.attempt_bind_ok hreturn

/-- **A Close frame is refused**, or handled as a control frame without its mask. -/
theorem attempt_processFrame (logged : Bool) (u : Utf8Crate)
    (hclose : f.header.opcode = .control .close) (hmax : f.payload.length ≤ 125) :
    (∃ e, (processFrame logged u f).attempt ⟨w, []⟩ = (.error e, ⟨w, []⟩)) ∧
        ¬ (w.context.state.canRead = true ∧
          f.Proper w.context.role w.context.config.acceptUnmaskedFrames) ∨
      (processFrame logged u f).attempt ⟨w, []⟩ =
          (controlFrame logged .close f.applyMask).attempt ⟨w, []⟩ ∧
        w.context.state.canRead = true ∧
          f.Proper w.context.role w.context.config.acceptUnmaskedFrames := by
  by_cases hread : w.context.state.canRead = true
  · by_cases hreserved : f.header.rsv1 ∨ f.header.rsv2 ∨ f.header.rsv3
    · refine .inl ⟨⟨.protocol .nonZeroReservedBits, ?_⟩, fun h ↦ h.2.reserved hreserved⟩
      rw [processFrame, EStateM.attempt_get_bind, if_neg (not_not_intro hread), if_pos hreserved]
      rfl
    · rcases WebSocket.unmask_spec w.context.role w.context.config.acceptUnmaskedFrames f with
        ⟨hmask, hserver, hclient⟩ | ⟨⟨e, he⟩, hmask⟩
      · have hcontrol : (processFrame logged u f).attempt ⟨w, []⟩ =
            (controlFrame logged .close f.applyMask).attempt ⟨w, []⟩ := by
          rw [processFrame, EStateM.attempt_get_bind, if_neg (not_not_intro hread),
            if_neg hreserved, hmask, EStateM.attempt_bind_ok (EStateM.attempt_ofExcept _ _),
            (WebSocket.header_applyMask f).1, hclose]
        by_cases hfinal : f.header.isFinal = true
        · exact .inr ⟨hcontrol, hread, hreserved, hserver, hclient, fun _ _ ↦ ⟨hfinal, hmax⟩⟩
        · have hfinal' : ¬ f.applyMask.header.isFinal := by
            rw [(WebSocket.header_applyMask f).2]
            exact hfinal
          refine .inl ⟨⟨.protocol .fragmentedControlFrame, ?_⟩,
            fun h ↦ hfinal (h.2.control _ hclose).1⟩
          rw [hcontrol, controlFrame, if_pos hfinal']
          rfl
      · refine .inl ⟨⟨e, ?_⟩, fun h ↦ hmask ⟨h.2.server, h.2.client⟩⟩
        rw [processFrame, EStateM.attempt_get_bind, if_neg (not_not_intro hread),
          if_neg hreserved, he]
        rfl
  · refine .inl ⟨⟨.protocol .receivedAfterClosing, ?_⟩, fun h ↦ hread h.1⟩
    rw [processFrame, EStateM.attempt_get_bind, if_pos hread]
    rfl

/-- **Reading a Close frame is safe if and only if its reason is a text, or the frame is
refused**, because nothing may be read any more or because it breaks a rule of the protocol. -/
theorem safe_processFrame (logged : Bool) (u : Utf8Crate) (w : WebSocket) (f : Frame)
    (hclose : f.header.opcode = .control .close) (hmin : 2 ≤ f.payload.length)
    (hmax : f.payload.length ≤ 125) :
    Safe f.reason ((processFrame logged u f).attempt ⟨w, []⟩) ↔
      Utf8.Valid f.reason ∨ ¬ (w.context.state.canRead = true ∧
        f.Proper w.context.role w.context.config.acceptUnmaskedFrames) := by
  rcases attempt_processFrame logged u hclose hmax with ⟨⟨e, he⟩, hrefused⟩ | ⟨heq, hread, hproper⟩
  · rw [he]
    exact iff_of_true .of_error (.inr hrefused)
  · obtain ⟨close, w', hattempt, hreason⟩ :=
      attempt_controlFrame logged hread (hproper.control _ hclose).1 hmin hmax
    rw [heq, hattempt]
    constructor
    · intro hsafe
      by_contra hnot
      exact not_safe (fun hvalid ↦ hnot (.inl hvalid)) hsafe
    · rintro (hvalid | hrefused)
      · refine .of_valid hvalid ?_ hreason
        cases logged with
        | true => exact fun bytes hbytes ↦ List.mem_singleton.1 hbytes
        | false => exact fun bytes hbytes ↦ absurd hbytes List.not_mem_nil
      · exact absurd ⟨hread, hproper⟩ hrefused

/-- A Close frame with the reason "bye" is read safely. -/
theorem safe_processFrame_bye :
    let bye : Frame := ⟨.default, [0x03, 0xE8] ++ Utf8.encode "bye"⟩
    bye.reason = Utf8.encode "bye" ∧ Safe bye.reason
      ((processFrame true .reference bye).attempt ⟨.fresh .client ⟨[], [], [], []⟩, []⟩) := by
  have hreason : Frame.reason ⟨.default, [0x03, 0xE8] ++ Utf8.encode "bye"⟩ =
      Utf8.encode "bye" := rfl
  refine ⟨hreason, (safe_processFrame true .reference (.fresh .client ⟨[], [], [], []⟩)
    ⟨.default, [0x03, 0xE8] ++ Utf8.encode "bye"⟩ rfl (by decide) (by decide)).2 (.inl ?_)⟩
  rw [hreason]
  exact Utf8.valid_encode "bye"

/-- **A byte that is in no text is taken for one.**  A server closes the connection normally and
gives the byte `0xFF` as its reason; the client writes it to its log and returns it. -/
theorem garbled_reason :
    ∃ s, (processFrame true .reference ⟨.default, [0x03, 0xE8, 0xFF]⟩).attempt
        ⟨.fresh .client ⟨[], [], [], []⟩, []⟩ = (.ok (some (.close (some ⟨.normal, [0xFF]⟩))), s) ∧
      s.unchecked = [[0xFF]] ∧ ¬ Utf8.Valid [0xFF] ∧
      ¬ Safe [0xFF] ((processFrame true .reference ⟨.default, [0x03, 0xE8, 0xFF]⟩).attempt
        ⟨.fresh .client ⟨[], [], [], []⟩, []⟩) := by
  have hinvalid : ¬ Utf8.Valid [0xFF] := fun h ↦ absurd h.head (by decide)
  refine ⟨_, rfl, rfl, hinvalid, ?_⟩
  exact not_safe hinvalid

end Formatting

end Ws

end MessageIo
