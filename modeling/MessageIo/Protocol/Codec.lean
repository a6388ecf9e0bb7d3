import MessageIo.Lib.Attempt
import MessageIo.Network.Adapter
import MessageIo.Protocol.Frame

/-!
# The frame codec (`adapters/ws/protocol/frame/mod.rs`)

A codec has a buffer of what has been read and one of what is to be written.  Its stream
answers as a list of answers says; where the list ends, the stream would block.

The stream also keeps a journal, which the code does not see: which operations it was asked
for, which bytes it took and which frames were put into the buffer of output.
-/

namespace MessageIo

namespace Ws

/-! ## Streams -/

/-- What is answered during calls: by the stream, and by the generator of masks. -/
structure Answers where
  reads : List ReadCall
  writes : List WriteCall
  flushes : List (Except ErrorKind Unit)
  masks : List Mask

/-- An operation on a stream. -/
inductive SocketOp where
  | read
  /-- So many bytes are offered. -/
  | write (n : Nat)
  | flush
deriving DecidableEq, Repr

/-- A stream, with its journal. -/
structure Socket where
  answers : Answers
  ops : List SocketOp
  /-- The bytes that the stream took. -/
  written : Bytes
  /-- The frames that were put into the buffer of output. -/
  queued : List Frame

/-- A stream with nothing in its journal. -/
def Socket.new (answers : Answers) : Socket := ⟨answers, [], [], []⟩

/-- A codec for WebSocket frames. -/
structure FrameCodec where
  /-- Buffer to read data from the stream, without what has been used. -/
  inBuffer : Bytes
  /-- Buffer to send packets to the network. -/
  outBuffer : Bytes
  /-- Capacity limit for the out buffer. -/
  maxOutBufferLen : Nat
  /-- Buffer target length to reach before writing to the stream on calls to `bufferFrame`. -/
  outBufferWriteLen : Nat
  /-- Header and remaining size of the incoming packet being processed. -/
  header : Option (FrameHeader × Nat)

/-- A codec on its stream. -/
structure FrameSocket where
  socket : Socket
  codec : FrameCodec

/-- `usize::MAX` -/
def usizeMax : Nat := 2 ^ 64 - 1

namespace FrameCodec

/-- Create a new frame codec from partially read data. -/
def fromPartiallyRead (part : Bytes) : FrameCodec := ⟨part, [], usizeMax, 0, none⟩

/-- Create a new frame codec. -/
def new : FrameCodec := fromPartiallyRead []

/-! ## Reading -/

/-- The header of the next frame, read now if it was not before. -/
def nextHeader (c : FrameCodec) : Except Error (Option (FrameHeader × Nat)) × FrameCodec :=
  match c.header with
  | some header => (.ok (some header), c)
  | none =>
      let (r, inBuffer) := FrameHeader.parse c.inBuffer
      match r with
      | .ok header => (.ok header, { c with inBuffer, header })
      | .error e => (.error e, { c with inBuffer })

/-- The next frame, if the buffer holds the whole of it. -/
def nextFrame (maxSize : Nat) (c : FrameCodec) : Except Error (Option Frame) × FrameCodec :=
  match c.nextHeader with
  | (.error e, c) => (.error e, c)
  | (.ok none, c) => (.ok none, c)
  | (.ok (some (header, length)), c) =>
      -- Enforce frame size limit early.
      if maxSize < length then (.error (.messageTooLong length maxSize), c)
      else if length ≤ c.inBuffer.length then
        (.ok (some ⟨header, c.inBuffer.take length⟩),
          { c with inBuffer := c.inBuffer.drop length, header := none })
      else (.ok none, c)

/-- What `readFrame` ends with: its result, the codec, the answers that are left and how often
the stream was read. -/
structure FrameRead where
  result : Except Error (Option Frame)
  codec : FrameCodec
  reads : List ReadCall
  count : Nat

/-- The loop of `readFrame`: as long as the buffer holds no frame, the stream is read. -/
def readLoop (maxSize : Nat) (c : FrameCodec) : List ReadCall → FrameRead
  | [] =>
      match c.nextFrame maxSize with
      | (.ok none, c) => ⟨.error (.io .wouldBlock), c, [], 1⟩
      | (r, c) => ⟨r, c, [], 0⟩
  | call :: reads =>
      match c.nextFrame maxSize with
      | (.ok none, c) =>
          match call with
          | .err kind => ⟨.error (.io kind), c, reads, 1⟩
          | .ok [] => ⟨.ok none, c, reads, 1⟩
          | .ok data =>
              let out := readLoop maxSize { c with inBuffer := c.inBuffer ++ data } reads
              { out with count := out.count + 1 }
      | (r, c) => ⟨r, c, call :: reads, 0⟩

/-- What there is of frames: the bytes, and a header that has been taken from them. -/
def size (c : FrameCodec) : Nat := c.inBuffer.length + if c.header.isSome then 1 else 0

/-- The bytes that a stream has to give. -/
def readable : List ReadCall → Nat
  | [] => 0
  | .ok data :: reads => data.length + readable reads
  | .err _ :: reads => readable reads

/-! ## Writing -/

/-- What `writeOutBuffer` ends with: its result, what is left of the buffer, the answers that are
left, the bytes that the stream took and how many it was offered each time. -/
structure Drained where
  result : Except Error Unit
  rest : Bytes
  writes : List WriteCall
  taken : Bytes
  offers : List Nat

/-- The loop of `writeOutBuffer`: as long as there is something to write, it is offered. -/
def drain (out : Bytes) : List WriteCall → Drained
  | [] =>
      if out = [] then ⟨.ok (), [], [], [], []⟩
      else ⟨.error (.io .wouldBlock), out, [], [], [out.length]⟩
  | call :: writes =>
      if out = [] then ⟨.ok (), [], call :: writes, [], []⟩
      else
        match call with
        | .err kind => ⟨.error (.io kind), out, writes, [], [out.length]⟩
        | .ok n =>
            let len := min n out.length
            -- This is the same as "Connection reset by peer".
            if len = 0 then ⟨.error (.io .connectionReset), out, writes, [], [out.length]⟩
            else
              let d := drain (out.drop len) writes
              { d with taken := out.take len ++ d.taken, offers := out.length :: d.offers }

end FrameCodec

namespace FrameSocket

/-- Code that works on a codec and its stream. -/
abbrev Io (α : Type) := EStateM Error FrameSocket α

/-- Read a frame from the provided stream. -/
def readFrame (maxSize : Option Nat) : Io (Option Frame) := do
  let s ← get
  let out := s.codec.readLoop (maxSize.getD usizeMax) s.socket.answers.reads
  set (⟨{ s.socket with
      answers := { s.socket.answers with reads := out.reads }
      ops := s.socket.ops ++ List.replicate out.count .read }, out.codec⟩ : FrameSocket)
  EStateM.ofExcept out.result

/-- Writes the out_buffer to the provided stream. -/
def writeOutBuffer : Io Unit := do
  let s ← get
  let d := FrameCodec.drain s.codec.outBuffer s.socket.answers.writes
  set (⟨{ s.socket with
      answers := { s.socket.answers with writes := d.writes }
      ops := s.socket.ops ++ d.offers.map .write
      written := s.socket.written ++ d.taken }, { s.codec with outBuffer := d.rest }⟩ : FrameSocket)
  EStateM.ofExcept d.result

/-- A frame is formatted into the out_buffer. -/
def queue (s : FrameSocket) (frame : Frame) : FrameSocket where
  socket := { s.socket with queued := s.socket.queued ++ [frame] }
  codec := { s.codec with outBuffer := s.codec.outBuffer ++ frame.format }

/-- There is room for a frame in the out_buffer. -/
def Fits (s : FrameSocket) (frame : Frame) : Prop :=
  frame.len + s.codec.outBuffer.length ≤ s.codec.maxOutBufferLen

instance (s : FrameSocket) (frame : Frame) : Decidable (s.Fits frame) := Nat.decLe _ _

/-- Writes a frame into the `out_buffer`.  If the out buffer size is over the
`out_buffer_write_len` will also write the out buffer into the provided `stream`. -/
def bufferFrame (frame : Frame) : Io Unit := do
  let s ← get
  if ¬ s.Fits frame then throw (.writeBufferFull (.frame frame))
  else
    set (s.queue frame)
    if s.codec.outBufferWriteLen < (s.queue frame).codec.outBuffer.length then writeOutBuffer
    else return ()

/-- `stream.flush()` -/
def flushStream : Io Unit := do
  let s ← get
  set ({ s with socket := { s.socket with
    answers := { s.socket.answers with flushes := s.socket.answers.flushes.tail }
    ops := s.socket.ops ++ [.flush] } } : FrameSocket)
  EStateM.ofExcept (((s.socket.answers.flushes.head?).getD (.ok ())).mapError .io)

end FrameSocket

end Ws

end MessageIo
