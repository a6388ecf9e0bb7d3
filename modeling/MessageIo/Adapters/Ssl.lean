import MessageIo.Adapters.Tcp

/-!
# The TLS adapter (`adapters/ssl`)

A remote that was accepted starts as a raw stream with an acceptor and becomes a
connection when the first message of the client is there.  What `rustls` does
with the bytes is answered from outside.
-/

namespace MessageIo

/-- `Display` of a remote address, given the one of socket addresses. -/
def RemoteAddr.display (display : SocketAddr → String) : RemoteAddr → String
  | socket addr => display addr
  | str string => string

namespace Ssl

/-- A stream that is protected with TLS, or about to be. -/
inductive SslStream where
  /-- Raw stream with acceptor -/
  | rustlsStreamAcceptor (raw : Option TcpStream) (acceptor : Option Unit)
      (serverConfig : ServerConfig)
  | rustlsClientConnection (sock : TcpStream)
  | rustlsServerConnection (sock : TcpStream)
deriving DecidableEq, Repr

structure RemoteResource where
  stream : SslStream
  keepaliveOpt : Option TcpKeepalive
deriving DecidableEq, Repr

structure LocalResource where
  listener : TcpListener
  keepaliveOpt : Option TcpKeepalive
  serverConfig : ServerConfig
deriving DecidableEq, Repr

namespace RemoteResource

/-- One turn of `Remote::receive`.  An acceptor that would block is tried again at
once. -/
def receiveTurn (r : RemoteResource) (env : ReadEnv) :
    Except Halt (ReceiveTurn × RemoteResource) :=
  match r.stream with
  | .rustlsStreamAcceptor rawOpt acceptorOpt serverConfig => do
      let raw ← unwrapOpt rawOpt
      let acceptor ← unwrapOpt acceptorOpt
      match env.wrapStream with
      | .ok () => return (.again, { r with stream := .rustlsServerConnection raw })
      | .error kind =>
          let r := { r with
            stream := .rustlsStreamAcceptor (some raw) (some acceptor) serverConfig }
          if kind = .wouldBlock then return (.again, r) else return (.done .disconnected, r)
  | .rustlsClientConnection _ => .ok (readTurn env.read, r)
  | .rustlsServerConnection _ => .ok (readTurn env.read, r)

/-- The loop of `send` has no bound: there are more attempts than answers. -/
def sendAll (sock : TcpStream) (data : Bytes) (writes : List WriteCall) :
    Proc Written Halt SendStatus :=
  sendLoop sock data (writes.length + 1) 0 writes

/-- `Remote::send` -/
def send (r : RemoteResource) (data : Bytes) (env : SendEnv) : Proc Written Halt SendStatus :=
  match r.stream with
  | .rustlsStreamAcceptor .. => .halt (.panic .unreachable)
  | .rustlsClientConnection sock => sendAll sock data env.writes
  | .rustlsServerConnection sock => sendAll sock data env.writes

/-- `Remote::pending`: readiness is that of the stream below. -/
def pending (r : RemoteResource) (env : PendingEnv) :
    Except Halt (PendingStatus × RemoteResource) :=
  match r.stream with
  | .rustlsStreamAcceptor rawOpt _ _ => do
      let _raw ← unwrapOpt rawOpt
      return (checkTcpStreamReady env, r)
  | .rustlsClientConnection _ => .ok (checkTcpStreamReady env, r)
  | .rustlsServerConnection _ => .ok (checkTcpStreamReady env, r)

/-- `Resource::source` -/
def source (r : RemoteResource) : Except Halt TcpStream :=
  match r.stream with
  | .rustlsStreamAcceptor rawOpt _ _ => unwrapOpt rawOpt
  | .rustlsClientConnection sock => .ok sock
  | .rustlsServerConnection sock => .ok sock

end RemoteResource

instance : Remote RemoteResource where
  source := RemoteResource.source
  pending := RemoteResource.pending
  receiveTurn := RemoteResource.receiveTurn
  send := RemoteResource.send

/-- `Local::listen_with`; a certificate or a key that cannot be read is a panic. -/
def listenWith (config : ListenConfig) (addr : SocketAddr) (env : ListenEnv) :
    Except Halt (IoResult (LocalResource × SocketAddr)) := do
  match listeningSocket config addr env with
  | .error err => return .error err
  | .ok listener =>
      let localAddr ← unwrap env.localAddr
      let serverConfig ← unwrap (env.serverConfig config.certPath config.priKeyPath)
      return .ok (⟨listener, config.keepaliveOpt, serverConfig⟩, localAddr)

instance : Local LocalResource where
  listenWith := listenWith
  acceptTurn l := acceptStreamTurn (.sslAccept l.keepaliveOpt l.serverConfig)

/-- The host of the address is the domain to check the certificate against. -/
def sslRemoteConnectWith (config : ConnectConfig) (peerAddr : SocketAddr) (uri : Uri)
    (env : ConnectEnv) : IoResult ConnectionInfo :=
  remoteConnectWith config peerAddr
    (match uri.host with
      | some d => .ok (some d)
      | none => .error ⟨.notFound, none⟩)
    env

/-- `wrap_stream` of the connector. -/
def wrapStream (sock : TcpStream) (domain : String) (env : RegisterEnv) :
    Except Halt (Option SslStream) := do
  unwrap env.nativeCerts
  return if env.serverName domain && env.clientConnection then some (.rustlsClientConnection sock)
    else none

instance : Adapter RemoteResource LocalResource where
  connect config raddr env := do
    if !raddr.isString then throw (.panic .assertion)
    let uri ← unwrapOpt (env.parseUri (raddr.display env.display))
    let peerAddr ← raddr.socketAddr
    return (sslRemoteConnectWith config peerAddr uri env).map fun info ↦
      (info, .sslConnect info.keepaliveOpt info.domainOpt)
  acceptedResource stream
    | .sslAccept keepaliveOpt serverConfig =>
        .ok ⟨.rustlsStreamAcceptor (some stream) (some ()) serverConfig, keepaliveOpt⟩
    | _ => .error (.panic .downcast)
  connectedResource stream payload env :=
    match payload with
    | .sslConnect keepaliveOpt domainOpt => do
        let domain ← unwrapOpt domainOpt
        match ← wrapStream stream domain env with
        | some s => return ⟨s, keepaliveOpt⟩
        | none => throw (.panic .unreachable)
    | _ => .error (.panic .downcast)

end Ssl

/-- The driver of the TLS transport. -/
abbrev SslDriver := Driver Ssl.RemoteResource Ssl.LocalResource

end MessageIo
