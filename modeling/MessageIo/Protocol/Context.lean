import MessageIo.Protocol.Message

/-!
# The WebSocket (`adapters/ws/protocol/mod.rs`)

A `WebSocketContext` reads and writes messages, answers pings and the closing handshake.  A call
that fails leaves the context as far as it has come, so the calls are computations that
change a `WebSocket` and may fail.

Beside the journal of its stream, a `WebSocket` has one of its automatic replies: whether
`additionalSend` holds one and where the last one ends that went into the buffer of output.

In `do_close` the source hands `set_additional` an `Option<Frame>` where it takes a `Frame`; an
absent reply is read here as nothing to be set.
-/

namespace MessageIo

namespace Ws

/-! ## The state of a connection -/

/-- Indicates a Client or Server role of the websocket. -/
inductive Role where
  | server
  | client
deriving DecidableEq, Repr

/-- The current connection state. -/
inductive WebSocketState where
  /-- The connection is active. -/
  | active
  /-- We initiated a close handshake. -/
  | closedByUs
  /-- The peer initiated a close handshake. -/
  | closedByPeer
  /-- The peer replied to our close handshake. -/
  | closeAcknowledged
  /-- The connection does not exist anymore. -/
  | terminated
deriving DecidableEq, Repr

namespace WebSocketState

/-- Tell if we're allowed to process normal messages. -/
def isActive : WebSocketState → Bool
  | active => true
  | _ => false

/-- Tell if we should process incoming data. -/
def canRead : WebSocketState → Bool
  | active | closedByUs => true
  | _ => false

/-- Check if the state is active, return error if not. -/
def checkNotTerminated : WebSocketState → Except Error Unit
  | terminated => .error .alreadyClosed
  | _ => .ok ()

end WebSocketState

/-- Translate "Connection reset by peer" into `ConnectionClosed` if appropriate. -/
def checkConnectionReset {α : Type} (state : WebSocketState) : Except Error α → Except Error α
  | .error (.io kind) =>
      if !state.canRead && kind = .connectionReset then .error .connectionClosed
      else .error (.io kind)
  | r => r

/-- The configuration for WebSocket connection. -/
structure WebSocketConfig where
  /-- The target minimum size of the write buffer to reach before writing the data to the
  underlying stream. -/
  writeBufferSize : Nat
  /-- The max size of the write buffer in bytes. -/
  maxWriteBufferSize : Nat
  /-- The maximum size of a message. -/
  maxMessageSize : Option Nat
  /-- The maximum size of a single message frame. -/
  maxFrameSize : Option Nat
  /-- When set to `true`, the server will accept and handle unmasked frames from the client. -/
  acceptUnmaskedFrames : Bool

namespace WebSocketConfig

def default : WebSocketConfig where
  writeBufferSize := 128 * 1024
  maxWriteBufferSize := usizeMax
  maxMessageSize := some (64 <<< 20)
  maxFrameSize := some (16 <<< 20)
  acceptUnmaskedFrames := false

/-- Panic if values are invalid. -/
def assertValid (config : WebSocketConfig) : Except Halt Unit :=
  if config.writeBufferSize < config.maxWriteBufferSize then .ok ()
  else .error (.panic .assertion)

end WebSocketConfig

/-- A context for managing WebSocket stream. -/
structure WebSocketContext where
  /-- Server or client? -/
  role : Role
  /-- encoder/decoder of frame. -/
  frame : FrameCodec
  /-- The state of processing, either "active" or "closing". -/
  state : WebSocketState
  /-- Receive: an incomplete message being processed. -/
  incomplete : Option IncompleteMessage
  /-- Send in addition to regular messages E.g. "pong" or "close". -/
  additionalSend : Option Frame
  /-- The configuration for the websocket session. -/
  config : WebSocketConfig

namespace WebSocketContext

/-- Create a WebSocket context that manages an post-handshake stream. -/
def fromPartiallyRead (part : Bytes) (role : Role) (config : Option WebSocketConfig) :
    Except Halt WebSocketContext := do
  let config := config.getD .default
  config.assertValid
  let frame : FrameCodec := { FrameCodec.fromPartiallyRead part with
    maxOutBufferLen := config.maxWriteBufferSize
    outBufferWriteLen := config.writeBufferSize }
  return ⟨role, frame, .active, none, none, config⟩

/-- Create a WebSocket context that manages a post-handshake stream. -/
def new (role : Role) (config : Option WebSocketConfig) : Except Halt WebSocketContext :=
  fromPartiallyRead [] role config

end WebSocketContext

/-- WebSocket input-output stream, with the journal of its automatic replies. -/
structure WebSocket where
  socket : Socket
  context : WebSocketContext
  /-- What `additionalSend` holds is an automatic reply. -/
  automatic : Bool
  /-- The number of bytes put into the buffer of output up to the end of the last automatic
  reply. -/
  replyEnd : Nat

/-- The close command that is answered and returned in place of one that was received. -/
def CloseFrame.checked (frame : CloseFrame) : CloseFrame :=
  if ¬ frame.code.isAllowed then ⟨.protocol, Utf8.encode "Protocol violation"⟩ else frame

namespace WebSocket

/-- Convert a raw socket, of which a part has been read, into a WebSocket. -/
def fromPartiallyRead (stream : Socket) (part : Bytes) (role : Role)
    (config : Option WebSocketConfig) : Except Halt WebSocket := do
  let context ← WebSocketContext.fromPartiallyRead part role config
  return ⟨stream, context, false, 0⟩

/-- Convert a raw socket into a WebSocket without performing a handshake. -/
def fromRawSocket (stream : Socket) (role : Role) (config : Option WebSocketConfig) :
    Except Halt WebSocket :=
  fromPartiallyRead stream [] role config

/-- A new connection with the default configuration. -/
def fresh (role : Role) (answers : Answers) : WebSocket where
  socket := .new answers
  context := ⟨role, { FrameCodec.new with outBufferWriteLen := 128 * 1024 }, .active, none, none,
    .default⟩
  automatic := false
  replyEnd := 0

/-- A new connection is active, and nothing is waiting in it. -/
theorem fromPartiallyRead_ok {stream : Socket} {part : Bytes} {role : Role}
    {config : Option WebSocketConfig} {w : WebSocket}
    (h : fromPartiallyRead stream part role config = .ok w) :
    ∃ frame, frame = { FrameCodec.fromPartiallyRead part with
        maxOutBufferLen := (config.getD .default).maxWriteBufferSize
        outBufferWriteLen := (config.getD .default).writeBufferSize } ∧
      w = ⟨stream, ⟨role, frame, .active, none, none, config.getD .default⟩, false, 0⟩ := by
  rw [fromPartiallyRead, WebSocketContext.fromPartiallyRead, WebSocketConfig.assertValid] at h
  split at h
  · cases h
    exact ⟨_, rfl, rfl⟩
  · cases h

/-- The codec on the stream. -/
def frameSocket (w : WebSocket) : FrameSocket := ⟨w.socket, w.context.frame⟩

def setFrameSocket (s : FrameSocket) (w : WebSocket) : WebSocket :=
  { w with socket := s.socket, context := { w.context with frame := s.codec } }

def setState (state : WebSocketState) (w : WebSocket) : WebSocket :=
  { w with context := { w.context with state } }

def setIncomplete (incomplete : Option IncompleteMessage) (w : WebSocket) : WebSocket :=
  { w with context := { w.context with incomplete } }

def setAdditionalSend (additionalSend : Option Frame) (automatic : Bool) (w : WebSocket) :
    WebSocket :=
  { w with context := { w.context with additionalSend }, automatic }

/-- A client draws a mask. -/
def drawMask (w : WebSocket) : WebSocket :=
  { w with socket := { w.socket with answers := { w.socket.answers with
    masks := match w.context.role with
      | .server => w.socket.answers.masks
      | .client => w.socket.answers.masks.tail } } }

/-- All that was put into the buffer of output. -/
def output (w : WebSocket) : Bytes := w.socket.written ++ w.context.frame.outBuffer

/-- What was in `additionalSend` is in the buffer of output now. -/
def recordReply (w : WebSocket) : WebSocket :=
  { w with
    automatic := false
    replyEnd := if w.automatic then w.output.length else w.replyEnd }

/-- Code that works on a `WebSocket`. -/
abbrev Io (α : Type) := EStateM Error WebSocket α

/-- The codec is called. -/
def onCodec {α : Type} (m : FrameSocket.Io α) : Io α := m.zoom frameSocket setFrameSocket

/-! ## Writing -/

/-- Replace `additional_send` if it is currently a `Pong` message. -/
def setAdditional (add : Frame) (automatic : Bool) : Io Unit := do
  let w ← get
  let emptyOrPong := w.context.additionalSend.all (·.isPong)
  if emptyOrPong then set (w.setAdditionalSend (some add) automatic) else pure ()

/-- The frame that goes out: a client masks it. -/
def masked (w : WebSocket) (frame : Frame) : Frame :=
  match w.context.role with
  | .server => frame
  | .client => frame.setMask (w.socket.answers.masks.head?.getD .zero)

/-- Write a single frame into the write-buffer. -/
def bufferFrame (frame : Frame) : Io Unit := do
  let w ← get
  set w.drawMask
  let r ← (onCodec (FrameSocket.bufferFrame (w.masked frame))).tried
  EStateM.ofExcept (checkConnectionReset w.context.state r)

/-- The middle of `_write`: what is in `additional_send` goes into the buffer of output. -/
def writeAdditional : Io Bool := do
  let w ← get
  match w.context.additionalSend with
  | none => return false
  | some msg =>
      set (w.setAdditionalSend none w.automatic)
      match ← (bufferFrame msg).tried with
      | .error (.writeBufferFull (.frame msg)) =>
          -- It would exceed the buffer and is put back for another time.
          setAdditional msg w.automatic
          return false
      | .error e =>
          modify recordReply
          throw e
      | .ok () =>
          modify recordReply
          return true

/-- The end of `_write`: if we're closing and there is nothing to send anymore, we should close the
connection. -/
def endIfClosing (shouldFlush : Bool) : Io Bool := do
  let w ← get
  if w.context.role = .server ∧ ¬ w.context.state.canRead then
    onCodec FrameSocket.writeOutBuffer
    modify (setState .terminated)
    throw .connectionClosed
  else return shouldFlush

/-- Writes any data in the out_buffer, `additional_send` and given `data`.  Does **not** flush. -/
def _write (data : Option Frame) : Io Bool := do
  match data with
  | some data => bufferFrame data
  | none => pure ()
  let shouldFlush ← writeAdditional
  endIfClosing shouldFlush

/-- Flush writes. -/
def flush : Io Unit := do
  let _ ← _write none
  onCodec FrameSocket.writeOutBuffer
  onCodec FrameSocket.flushStream

/-- Close the connection. -/
def close (code : Option CloseFrame) : Io Unit := do
  let w ← get
  if w.context.state = .active then
    set (w.setState .closedByUs)
    let _ ← _write (Frame.close code)
    flush
  else flush

/-- The end of `write`. -/
def writeFrame (frame : Frame) : Io Unit := do
  let shouldFlush ← _write (some frame)
  if shouldFlush then flush else pure ()

/-- Write a message to the provided stream. -/
def write (message : Message) : Io Unit := do
  let w ← get
  -- When terminated, return AlreadyClosed.
  EStateM.ofExcept w.context.state.checkNotTerminated
  -- Do not write after sending a close frame.
  if ¬ w.context.state.isActive then throw (.protocol .sendAfterClosing)
  else
    match message with
    | .text data => writeFrame (.message (Utf8.encode data) .text true)
    | .binary buffer => writeFrame (.message buffer .binary true)
    | .ping buffer => writeFrame (.ping buffer)
    | .pong buffer =>
        setAdditional (.pong buffer) false
        let _ ← _write none
    | .close code => close code
    | .frame f => writeFrame f

/-- Writes and immediately flushes a message. -/
def send (message : Message) : Io Unit := do
  write message
  flush

/-! ## Reading -/

/-- An automatic reply, if there is one. -/
def answer : Option Frame → Io Unit
  | some reply => setAdditional reply true
  | none => pure ()

/-- Received a close frame.  Tells if we need to return a close frame to the user. -/
def doClose (close : Option CloseFrame) : Io (Option (Option CloseFrame)) := do
  let w ← get
  match w.context.state with
  | .active =>
      set (w.setState .closedByPeer)
      let close := close.map CloseFrame.checked
      answer (Frame.close close)
      return some close
  -- It is already closed, just ignore.
  | .closedByPeer | .closeAcknowledged => return none
  | .closedByUs =>
      -- We received a reply.
      set (w.setState .closeAcknowledged)
      return some close
  | .terminated => throw (.halt (.panic .unreachable))

/-- A control frame has been read. -/
def controlFrame (ctl : Control) (frame : Frame) : Io (Option Message) :=
  if ¬ frame.header.isFinal then throw (.protocol .fragmentedControlFrame)
  else if 125 < frame.payload.length then throw (.protocol .controlFrameTooBig)
  else
    match ctl with
    | .close => do
        let close ← EStateM.ofExcept frame.intoClose
        let reply ← doClose close
        return reply.map .close
    | .reserved i => throw (.protocol (.unknownControlFrameType i))
    | .ping => do
        let w ← get
        -- No ping processing after we sent a close frame.
        if w.context.state.isActive then setAdditional (.pong frame.payload) true else pure ()
        return some (.ping frame.payload)
    | .pong => return some (.pong frame.payload)

/-- The first fragment of a message has been read. -/
def firstFragment (u : Utf8Crate) (limit : Option Nat) (type : IncompleteMessageType)
    (frame : Frame) : Except Error (Option Message) × Option IncompleteMessage :=
  match (IncompleteMessage.new type).extend u frame.payload limit with
  | (.error e, _) => (.error e, none)
  | (.ok (), m) => if frame.header.isFinal then (m.complete.map some, none) else (.ok none, some m)

/-- A data frame has been read: what is returned, and what is incomplete then. -/
def dataFrame (u : Utf8Crate) (limit : Option Nat) (incomplete : Option IncompleteMessage)
    (d : Data) (frame : Frame) : Except Error (Option Message) × Option IncompleteMessage :=
  match d, incomplete with
  | .«continue», some msg =>
      match msg.extend u frame.payload limit with
      | (.error e, msg) => (.error e, some msg)
      | (.ok (), msg) =>
          if frame.header.isFinal then (msg.complete.map some, none) else (.ok none, some msg)
  | .«continue», none => (.error (.protocol .unexpectedContinueFrame), none)
  | c, some msg => (.error (.protocol (.expectedFragment c)), some msg)
  | .text, none => firstFragment u limit .text frame
  | .binary, none => firstFragment u limit .binary frame
  | .reserved i, none => (.error (.protocol (.unknownDataFrameType i)), none)

/-- A frame without its mask, which it has if it is for a server. -/
def unmask (role : Role) (acceptUnmaskedFrames : Bool) (frame : Frame) : Except Error Frame :=
  match role with
  | .server =>
      if frame.isMasked then .ok frame.applyMask
      else if !acceptUnmaskedFrames then .error (.protocol .unmaskedFrameFromClient)
      else .ok frame
  | .client => if frame.isMasked then .error (.protocol .maskedFrameFromServer) else .ok frame

/-- The part of `read_message_frame` that deals with a frame. -/
def processFrame (u : Utf8Crate) (frame : Frame) : Io (Option Message) := do
  let w ← get
  if ¬ w.context.state.canRead then throw (.protocol .receivedAfterClosing)
  -- MUST be 0 unless an extension is negotiated.
  else if frame.header.rsv1 ∨ frame.header.rsv2 ∨ frame.header.rsv3 then
    throw (.protocol .nonZeroReservedBits)
  else
    let frame ← EStateM.ofExcept (unmask w.context.role w.context.config.acceptUnmaskedFrames frame)
    match frame.header.opcode with
    | .control ctl => controlFrame ctl frame
    | .data d =>
        let out := dataFrame u w.context.config.maxMessageSize w.context.incomplete d frame
        set (w.setIncomplete out.2)
        EStateM.ofExcept out.1

/-- The part of `read_message_frame` that deals with the end of the stream. -/
def closedByStream : Io (Option Message) := do
  let w ← get
  set (w.setState .terminated)
  match w.context.state with
  | .closedByPeer | .closeAcknowledged => throw .connectionClosed
  | _ => throw (.protocol .resetWithoutClosingHandshake)

/-- Try to decode one message frame.  May return none. -/
def readMessageFrame (u : Utf8Crate) : Io (Option Message) := do
  let w ← get
  let r ← (onCodec (FrameSocket.readFrame w.context.config.maxFrameSize)).tried
  match ← EStateM.ofExcept (checkConnectionReset w.context.state r) with
  | some frame => processFrame u frame
  | none => closedByStream

/-- `no_block`: a call that would block has been made all the same. -/
def noBlock (m : Io Unit) : Io Unit := do
  match ← m.tried with
  | .error (.io .wouldBlock) => pure ()
  | r => EStateM.ofExcept r

/-- The front of a turn of the loop of `read`. -/
def beforeRead : Io Unit := do
  let w ← get
  if w.context.additionalSend.isSome then
    -- We may get ping or close, we need to reply to the messages even during read.
    noBlock flush
  else if w.context.role = .server ∧ ¬ w.context.state.canRead then
    set (w.setState .terminated)
    throw .connectionClosed
  else pure ()

/-- The loop of `read`, as long as the fuel lasts. -/
def readLoop (u : Utf8Crate) : Nat → Io Message
  | 0 => throw (.halt .running)
  | fuel + 1 => do
      beforeRead
      match ← readMessageFrame u with
      | some message => return message
      | none => readLoop u fuel

/-- Each turn of the loop uses a header, or a byte of what there is to be read. -/
def readFuel (w : WebSocket) : Nat :=
  w.context.frame.size + FrameCodec.readable w.socket.answers.reads + 1

/-- Read a message from the provided stream, if possible. -/
def read (u : Utf8Crate) : Io Message := do
  let w ← get
  -- Do not read from already closed connections.
  EStateM.ofExcept w.context.state.checkNotTerminated
  readLoop u w.readFuel

end WebSocket

/-! ## Calls -/

/-- A call of a `WebSocket`. -/
inductive Call where
  | read
  | write (message : Message)
  | flush
  | close (code : Option CloseFrame)

namespace WebSocket

/-- A call is answered so from here on; its journal of operations is empty. -/
def answered (answers : Answers) (w : WebSocket) : WebSocket :=
  { w with socket := { w.socket with answers, ops := [] } }

/-- A call, which returns a message if it reads one. -/
def call (u : Utf8Crate) : Call → Io (Option Message)
  | .read => do
      let message ← read u
      return some message
  | .write message => do
      write message
      return none
  | .flush => do
      flush
      return none
  | .close code => do
      close code
      return none

/-- A call with its answers: what it returns, and what the `WebSocket` is then. -/
def perform (u : Utf8Crate) (a : Call × Answers) (w : WebSocket) :
    Except Error (Option Message) × WebSocket :=
  (call u a.1).attempt (w.answered a.2)

/-- A call is a step of a run, whatever it returns. -/
def step (u : Utf8Crate) (w : WebSocket) (a : Call × Answers) : Option WebSocket :=
  some (w.perform u a).2

end WebSocket

end Ws

end MessageIo
