import MessageIo.Protocol.Context

/-!
# The handshake (`adapters/ws/handshake`)

A handshake is a machine, which reads an HTTP head or writes one, and a role, which tells what
comes behind a stage that is finished.  HTTP itself is left to the classes `TryParse` and `Http`.

A machine that starts to read has an empty buffer, and `single_round` looks at that buffer without
reading the stream.  So it would block, and it would block again whenever it is resumed: no head is
ever read, and no handshake ever ends in a `WebSocket`.
-/

namespace MessageIo

namespace Ws

/-- An error of a handshake: one that a connection has too, or one of its own. -/
inductive Failure where
  | connection (e : Error)
  | attackAttempt
  | junkAfterRequest
  | customResponseSuccessful
  | http
  | httpFormat
deriving DecidableEq, Repr

/-- The parseable object. -/
class TryParse (Obj : Type) where
  /-- Return none if incomplete, an error on syntax error. -/
  tryParse (data : Bytes) : Except Failure (Option (Nat × Obj))

/-! ## Attack mitigation -/

/-- Counters needed to prevent DoS attacks and reject valid but useless headers. -/
structure AttackCheck where
  /-- Number of HTTP header successful reads (TCP packets). -/
  numberOfPackets : Nat
  /-- Total number of bytes in HTTP header. -/
  numberOfBytes : Nat
deriving DecidableEq, Repr

namespace AttackCheck

/-- Initialize attack checking for incoming buffer. -/
def new : AttackCheck := ⟨0, 0⟩

def maxBytes : Nat := 65536

def maxPackets : Nat := 512

def minPacketSize : Nat := 128

def minPacketCheckThreshold : Nat := 64

/-- Check the size of an incoming packet. -/
def checkIncomingPacketSize (check : AttackCheck) (size : Nat) : Except Failure AttackCheck :=
  let packets := check.numberOfPackets + 1
  let bytes := check.numberOfBytes + size
  if maxBytes < bytes then .error .attackAttempt
  else if maxPackets < packets then .error .attackAttempt
  else if minPacketCheckThreshold < packets ∧ bytes < packets * minPacketSize then
    .error .attackAttempt
  else .ok ⟨packets, bytes⟩

end AttackCheck

/-! ## The machine -/

/-- The handshake state. -/
inductive HandshakeState where
  /-- Reading data from the peer. -/
  | reading (buffer : Bytes) (attackCheck : AttackCheck)
  /-- Sending data to the peer. -/
  | writing (buffer : Bytes)

/-- A generic handshake state machine. -/
structure HandshakeMachine where
  stream : Socket
  state : HandshakeState

/-- The result of the stage. -/
inductive StageResult (Obj : Type) where
  /-- Reading round finished. -/
  | doneReading (result : Obj) (stream : Socket) (tail : Bytes)
  /-- Writing round finished. -/
  | doneWriting (stream : Socket)

/-- The result of the round. -/
inductive RoundResult (Obj : Type) where
  /-- Round not done, I/O would block. -/
  | wouldBlock (m : HandshakeMachine)
  /-- Round done, state unchanged. -/
  | incomplete (m : HandshakeMachine)
  /-- Stage complete. -/
  | stageFinished (s : StageResult Obj)

/-- The bytes that a stream holds for its reader. -/
def Socket.unread (s : Socket) : Bytes :=
  s.answers.reads.flatMap fun
    | .ok data => data
    | .err _ => []

/-- `Write::write` -/
def Socket.write (s : Socket) (data : Bytes) : Except ErrorKind Nat × Socket :=
  let asked : Socket := { s with
    answers := { s.answers with writes := s.answers.writes.tail }
    ops := s.ops ++ [.write data.length] }
  match s.answers.writes.head?.getD (.err .wouldBlock) with
  | .err kind => (.error kind, asked)
  | .ok n => (.ok (min n data.length), { asked with written := s.written ++ data.take n })

/-- These chunks reach a stream, each for one read. -/
def Socket.arrive (s : Socket) (chunks : List Bytes) : Socket :=
  { s with answers := { s.answers with reads := s.answers.reads ++ chunks.map .ok } }

/-- An assertion of the machine does not hold. -/
def Failure.assertion : Failure := .connection (.halt (.panic .assertion))

namespace HandshakeMachine

/-- Start reading data from the peer. -/
def startRead (stream : Socket) : HandshakeMachine := ⟨stream, .reading [] .new⟩

/-- Start writing data to the peer. -/
def startWrite (stream : Socket) (data : Bytes) : HandshakeMachine := ⟨stream, .writing data⟩

/-- Perform a single handshake round. -/
def singleRound {Obj : Type} [TryParse Obj] (m : HandshakeMachine) :
    Except Failure (RoundResult Obj) :=
  match m.state with
  | .reading buf attackCheck =>
      let count := buf.length
      if count = 0 then .ok (.wouldBlock ⟨m.stream, .reading buf attackCheck⟩)
      else do
        let attackCheck ← attackCheck.checkIncomingPacketSize count
        match ← TryParse.tryParse buf with
        | some (size, obj) => return .stageFinished (.doneReading obj m.stream (buf.drop size))
        | none => return .incomplete ⟨m.stream, .reading buf attackCheck⟩
  | .writing buf =>
      if buf = [] then .error .assertion
      else
        match m.stream.write buf with
        | (.ok size, stream) =>
            if size = 0 then .error .assertion
            else if buf.drop size ≠ [] then .ok (.incomplete ⟨stream, .writing (buf.drop size)⟩)
            else .ok (.stageFinished (.doneWriting stream))
        | (.error .wouldBlock, stream) => .ok (.wouldBlock ⟨stream, .writing buf⟩)
        | (.error kind, _) => .error (.connection (.io kind))

end HandshakeMachine

/-! ## Roles -/

/-- Stage processing result. -/
inductive ProcessingResult (FinalResult : Type) where
  | «continue» (m : HandshakeMachine)
  | done (result : FinalResult)

/-- Handshake role. -/
class HandshakeRole (ρ : Type) (IncomingData FinalResult : outParam Type) where
  stageFinished (role : ρ) (finish : StageResult IncomingData) :
    Except Failure (ProcessingResult FinalResult × ρ)

/-- A WebSocket handshake. -/
structure MidHandshake (ρ : Type) where
  role : ρ
  machine : HandshakeMachine

/-- A handshake result that is not the final one. -/
inductive HandshakeError (ρ : Type) where
  /-- Handshake was interrupted (would block). -/
  | interrupted (mid : MidHandshake ρ)
  /-- Handshake failed. -/
  | failure (e : Failure)

namespace MidHandshake

variable {ρ Obj Result : Type} [TryParse Obj] [HandshakeRole ρ Obj Result]

/-- Restarts the handshake process: the loop, as long as the fuel lasts. -/
def handshake : Nat → MidHandshake ρ → Except (HandshakeError ρ) Result
  | 0, _ => .error (.failure (.connection (.halt .running)))
  | fuel + 1, mid =>
      match (mid.machine.singleRound : Except Failure (RoundResult Obj)) with
      | .error e => .error (.failure e)
      | .ok (.wouldBlock m) => .error (.interrupted ⟨mid.role, m⟩)
      | .ok (.incomplete m) => handshake fuel ⟨mid.role, m⟩
      | .ok (.stageFinished s) =>
          match HandshakeRole.stageFinished mid.role s with
          | .error e => .error (.failure e)
          | .ok (.«continue» m, role) => handshake fuel ⟨role, m⟩
          | .ok (.done result, _) => .ok result

/-- These chunks reach the stream of a handshake. -/
def arrive (mid : MidHandshake ρ) (chunks : List Bytes) : MidHandshake ρ :=
  ⟨mid.role, mid.machine.stream.arrive chunks, mid.machine.state⟩

/-- The handshake is resumed each time that something has arrived, as long as it is interrupted. -/
def resumed (fuel : Nat) : List (List Bytes) → MidHandshake ρ → Except (HandshakeError ρ) Result
  | [], mid => .error (.interrupted mid)
  | chunks :: arrivals, mid =>
      match (mid.arrive chunks).handshake fuel with
      | .error (.interrupted mid) => resumed fuel arrivals mid
      | r => r

end MidHandshake

/-! ## Client and server -/

/-- What a server asks of HTTP. -/
structure Http (Request Response ErrorResponse : Type) where
  createResponse : Request → Except Failure Response
  writeResponse : Response → Except Failure Bytes
  /-- The body is written as well. -/
  writeErrorResponse : ErrorResponse → Except Failure Bytes
  /-- `status().is_success()` -/
  isSuccess : ErrorResponse → Bool

/-- Client handshake role. -/
structure ClientHandshake (Response : Type) where
  /-- `VerifyData::verify_response` -/
  verifyResponse : Response → Except Failure Response
  config : Option WebSocketConfig

/-- Server handshake role. -/
structure ServerHandshake (Request Response ErrorResponse : Type) where
  http : Http Request Response ErrorResponse
  /-- Called when the server has read the request and is ready to reply to it. -/
  callback : Option (Request → Response → Except ErrorResponse Response)
  config : Option WebSocketConfig
  /-- If set, an error will be returned after sending response to the client. -/
  errorResponse : Option ErrorResponse

/-- A `WebSocket` that is made panics if its configuration is invalid. -/
def orPanic (r : Except Halt WebSocket) : Except Failure WebSocket :=
  r.mapError fun h ↦ .connection (.halt h)

namespace ClientHandshake

variable {Response : Type}

/-- Start a client handshake; the request is written first. -/
def start (stream : Socket) (request : Bytes) (role : ClientHandshake Response) :
    MidHandshake (ClientHandshake Response) :=
  ⟨role, .startWrite stream request⟩

def stageFinished (role : ClientHandshake Response) :
    StageResult Response → Except Failure (ProcessingResult (WebSocket × Response))
  | .doneWriting stream => .ok (.«continue» (.startRead stream))
  | .doneReading result stream tail => do
      let result ← role.verifyResponse result
      let websocket ← orPanic (WebSocket.fromPartiallyRead stream tail .client role.config)
      return .done (websocket, result)

instance : HandshakeRole (ClientHandshake Response) Response (WebSocket × Response) where
  stageFinished role finish := do
    let next ← role.stageFinished finish
    return (next, role)

end ClientHandshake

namespace ServerHandshake

variable {Request Response ErrorResponse : Type}

/-- Start server handshake. -/
def start (stream : Socket) (http : Http Request Response ErrorResponse)
    (callback : Request → Response → Except ErrorResponse Response)
    (config : Option WebSocketConfig) :
    MidHandshake (ServerHandshake Request Response ErrorResponse) :=
  ⟨⟨http, some callback, config, none⟩, .startRead stream⟩

/-- What the callback makes of a response, if it has not been called before. -/
def onRequest (role : ServerHandshake Request Response ErrorResponse) (request : Request)
    (response : Response) : Except ErrorResponse Response :=
  match role.callback with
  | some callback => callback request response
  | none => .ok response

def stageFinished (role : ServerHandshake Request Response ErrorResponse) :
    StageResult Request → Except Failure
      (ProcessingResult WebSocket × ServerHandshake Request Response ErrorResponse)
  | .doneReading result stream tail => do
      if tail ≠ [] then throw .junkAfterRequest
      let response ← role.http.createResponse result
      match role.onRequest result response with
      | .ok response =>
          let output ← role.http.writeResponse response
          return (.«continue» (.startWrite stream output), { role with callback := none })
      | .error resp =>
          if role.http.isSuccess resp then throw .customResponseSuccessful
          let output ← role.http.writeErrorResponse resp
          return (.«continue» (.startWrite stream output),
            { role with callback := none, errorResponse := some resp })
  | .doneWriting stream =>
      match role.errorResponse with
      | some _ => .error .http
      | none => do
          let websocket ← orPanic (WebSocket.fromRawSocket stream .server role.config)
          return (.done websocket, role)

instance : HandshakeRole (ServerHandshake Request Response ErrorResponse) Request WebSocket where
  stageFinished := stageFinished

end ServerHandshake

end Ws

end MessageIo
