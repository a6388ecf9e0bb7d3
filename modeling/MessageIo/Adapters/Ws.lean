import MessageIo.Adapters.Ssl

/-!
# The WebSocket adapter (`adapters/ws`)

A remote goes through a handshake, driven by `pending`, before it is a web socket.
What the handshake and the web socket make of the bytes is answered from outside.
-/

namespace MessageIo

namespace Ws

inductive PendingHandshake where
  | connect (url : Url) (stream : TcpStream)
  | accept (stream : TcpStream)
  | client (stream : TcpStream)
  | server (stream : TcpStream)
deriving DecidableEq, Repr

/-- The stream of a handshake. -/
def PendingHandshake.stream : PendingHandshake → TcpStream
  | connect _ stream => stream
  | accept stream => stream
  | client stream => stream
  | server stream => stream

inductive RemoteState where
  | webSocket (stream : TcpStream)
  | handshake (pending : Option PendingHandshake)
  | error (stream : TcpStream)
deriving DecidableEq, Repr

structure RemoteResource where
  state : RemoteState
  keepaliveOpt : Option TcpKeepalive
deriving DecidableEq, Repr

structure LocalResource where
  listener : TcpListener
  keepaliveOpt : Option TcpKeepalive
deriving DecidableEq, Repr

namespace RemoteResource

def ioErrorToReadStatus (kind : ErrorKind) : ReadStatus :=
  if kind = .wouldBlock then .waitNextEvent else .disconnected

/-- One turn of `Remote::receive`: behind a message, a look at the socket tells if there
is more to read. -/
def receiveTurn (r : RemoteResource) (env : ReadEnv) :
    Except Halt (ReceiveTurn × RemoteResource) :=
  match r.state with
  | .webSocket _ =>
      match env.wsRead with
      | .binary data =>
          match env.peek with
          | .ok () => .ok (.received data, r)
          | .error kind => .ok (⟨some data, some (ioErrorToReadStatus kind)⟩, r)
      | .close => .ok (.done .disconnected, r)
      | .other => .ok (.again, r)
      | .ioErr kind => .ok (.done (ioErrorToReadStatus kind), r)
      | .err => .ok (.done .disconnected, r)
  | .handshake _ => .error (.panic .unreachable)
  | .error _ => .error (.panic .unreachable)

/-- The loop of `send`: a message that would block is flushed until it does not. -/
def sendLoop : List WsSendCall → Proc Written Halt SendStatus
  | [] => .halt .running
  | .ok :: _ => return .sent
  | .ioErr .wouldBlock :: calls => sendLoop calls
  | .capacity :: _ => return .maxPacketSizeExceeded
  | _ :: _ => return .resourceNotFound

/-- `Remote::send` -/
def send (r : RemoteResource) (_data : Bytes) (env : SendEnv) : Proc Written Halt SendStatus :=
  match r.state with
  | .webSocket _ => sendLoop env.wsSends
  | .handshake _ => .halt (.panic .unreachable)
  | .error _ => .halt (.panic .unreachable)

/-- Where a step of the handshake leads to; `resume` is the handshake that was
interrupted. -/
def handshaked (resume : PendingHandshake) : HandshakeCall → PendingStatus × RemoteState
  | .done => (.ready, .webSocket resume.stream)
  | .interrupted => (.incomplete, .handshake (some resume))
  | .failure => (.disconnected, .error resume.stream)

/-- `Remote::pending` -/
def pending (r : RemoteResource) (env : PendingEnv) :
    Except Halt (PendingStatus × RemoteResource) :=
  match r.state with
  | .webSocket _ => .ok (.ready, r)
  | .handshake pending => do
      let (status, state) ← match ← unwrapOpt pending with
        | .connect url stream =>
            let tcpStatus := checkTcpStreamReady env
            if tcpStatus ≠ .ready then
              -- TCP handshake not ready yet.
              pure (tcpStatus, .handshake (some (.connect url stream)))
            else pure (handshaked (.client stream) env.handshake)
        | .accept stream => pure (handshaked (.server stream) env.handshake)
        | .client stream => pure (handshaked (.client stream) env.handshake)
        | .server stream => pure (handshaked (.server stream) env.handshake)
      return (status, { r with state })
  | .error _ => .error (.panic .unreachable)

/-- `Resource::source` -/
def source (r : RemoteResource) : Except Halt TcpStream :=
  match r.state with
  | .webSocket stream => .ok stream
  | .handshake (some pending) => .ok pending.stream
  | .handshake none => .error (.panic .unreachable)
  | .error stream => .ok stream

end RemoteResource

instance : Remote RemoteResource where
  source := RemoteResource.source
  pending := RemoteResource.pending
  receiveTurn := RemoteResource.receiveTurn
  send := RemoteResource.send

/-- `Local::listen_with` -/
def listenWith (config : ListenConfig) (addr : SocketAddr) (env : ListenEnv) :
    Except Halt (IoResult (LocalResource × SocketAddr)) := do
  match listeningSocket config addr env with
  | .error err => return .error err
  | .ok listener =>
      let localAddr ← unwrap env.localAddr
      return .ok (⟨listener, config.keepaliveOpt⟩, localAddr)

instance : Local LocalResource where
  listenWith := listenWith
  acceptTurn l := acceptStreamTurn (.wsAccept l.keepaliveOpt)

def wsRemoteConnectWith (config : ConnectConfig) (peerAddr : SocketAddr) (env : ConnectEnv) :
    IoResult ConnectionInfo :=
  remoteConnectWith config peerAddr (.ok none) env

/-- The address to connect to, and the URL to ask for. -/
def target (env : ConnectEnv) : RemoteAddr → Except Halt (SocketAddr × Url)
  | .socket addr => do
      let url ← unwrapOpt (env.parseUrl ("ws://" ++ env.display addr ++ "/message-io-default"))
      return (addr, url)
  | .str path => do
      let url ← unwrapOpt (env.parseUrl path)
      match ← unwrap (env.socketAddrs url) with
      | addr :: _ => return (addr, url)
      | [] => throw (.panic .slice)

instance : Adapter RemoteResource LocalResource where
  connect config raddr env := do
    let (peerAddr, url) ← target env raddr
    return (wsRemoteConnectWith config peerAddr env).map fun info ↦
      (info, .wsConnect url info.keepaliveOpt)
  acceptedResource stream
    | .wsAccept keepaliveOpt => .ok ⟨.handshake (some (.accept stream)), keepaliveOpt⟩
    | _ => .error (.panic .downcast)
  connectedResource stream payload _ :=
    match payload with
    | .wsConnect url keepaliveOpt => .ok ⟨.handshake (some (.connect url stream)), keepaliveOpt⟩
    | _ => .error (.panic .downcast)

end Ws

/-- The driver of the WebSocket transport. -/
abbrev WsDriver := Driver Ws.RemoteResource Ws.LocalResource

end MessageIo
