import MessageIo.Network.Basic

/-!
# What an adapter is (`network/adapter.rs`)

The traits `Remote` and `Local`, which every transport implements for its own
resources.  A call of a trait method asks the operating system and other crates
for something; what they answer is an argument here.  A loop of the source that
goes on until some call says stop (`receive`, `accept`) is given by one turn of
it, so that a list of answers drives the loop and one answer drives one step.
-/

namespace MessageIo

/-! ## Statuses -/

inductive SendStatus where
  | sent
  | maxPacketSizeExceeded
  | resourceNotFound
  | resourceNotAvailable
  | sendAbort
deriving DecidableEq, Repr

inductive ReadStatus where
  | disconnected
  | waitNextEvent
deriving DecidableEq, Repr

inductive PendingStatus where
  | ready
  | incomplete
  | disconnected
deriving DecidableEq, Repr

/-! ## Answers from outside -/

/-- What one `read` of a stream answers: `ok []` is the `Ok(0)` of a closed stream. -/
inductive ReadCall where
  | ok (data : Bytes)
  | err (kind : ErrorKind)
deriving DecidableEq, Repr

/-- What one `write` to a stream answers.  A stream never takes more than it is
offered, so `n` counts at most that much. -/
inductive WriteCall where
  | ok (n : Nat)
  | err (kind : ErrorKind)
deriving DecidableEq, Repr

/-- What one `accept` of a listener answers. -/
inductive AcceptCall where
  | ok (stream : TcpStream) (addr : SocketAddr)
  | err (kind : ErrorKind)
deriving DecidableEq, Repr

/-- The stream of an answer, under another name. -/
def AcceptCall.withStream (stream : TcpStream) : AcceptCall → AcceptCall
  | ok _ addr => ok stream addr
  | err kind => err kind

/-- The stream and the peer that an answer brings. -/
def acceptedOf : AcceptCall → Option (TcpStream × SocketAddr)
  | .ok stream addr => some (stream, addr)
  | .err _ => none

/-- What `ws_connect`, `ws_accept` or the resumption of a handshake answers. -/
inductive HandshakeCall where
  | done
  | interrupted
  | failure
deriving DecidableEq, Repr

/-- What `WebSocket::read` answers. -/
inductive WsReadCall where
  | binary (data : Bytes)
  | close
  /-- Any other message. -/
  | other
  | ioErr (kind : ErrorKind)
  /-- Any other error. -/
  | err
deriving DecidableEq, Repr

/-- What `WebSocket::send`, or the `flush` that repeats it, answers. -/
inductive WsSendCall where
  | ok
  | ioErr (kind : ErrorKind)
  | capacity
  /-- Any other error. -/
  | err
deriving DecidableEq, Repr

/-- What is answered during a call of `Remote::pending`. -/
structure PendingEnv where
  takeError : IoResult (Option IoError)
  peerAddr : IoResult SocketAddr
  handshake : HandshakeCall

/-- What is answered during one turn of the loop of `Remote::receive`. -/
structure ReadEnv where
  read : ReadCall
  /-- What the TLS acceptor makes of the bytes it finds. -/
  wrapStream : Except ErrorKind Unit
  wsRead : WsReadCall
  peek : Except ErrorKind Unit

/-- What is answered during a call of `Remote::send`. -/
structure SendEnv where
  writes : List WriteCall
  wsSends : List WsSendCall

/-- What is answered during one turn of the loop of `Local::accept`. -/
structure AcceptEnv where
  accept : AcceptCall
  localAddr : IoResult SocketAddr
  /-- The id that the shared generator hands out in this turn. -/
  remoteId : Option ResourceId

/-- The domain that a new socket is made for. -/
inductive Domain where
  | ipv4
  | ipv6
deriving DecidableEq, Repr

/-- What is answered while a connection is set up. -/
structure ConnectEnv where
  newSocket : Domain → IoResult Unit
  setNonblocking : IoResult Unit
  setNodelay : IoResult Unit
  bind : SocketAddr → IoResult Unit
  bindDevice : String → IoResult Unit
  connect : SocketAddr → IoResult Unit
  localAddr : IoResult SocketAddr
  /-- The stream made from the socket. -/
  stream : TcpStream
  /-- The text of a socket address. -/
  display : SocketAddr → String
  parseUri : String → Option Uri
  parseUrl : String → Option Url
  socketAddrs : Url → IoResult (List SocketAddr)

/-- What is answered while a listener is set up. -/
structure ListenEnv where
  newSocket : Domain → IoResult Unit
  setNonblocking : IoResult Unit
  setNodelay : IoResult Unit
  setReuseAddress : IoResult Unit
  bindDevice : String → IoResult Unit
  bind : SocketAddr → IoResult Unit
  listen : IoResult Unit
  localAddr : IoResult SocketAddr
  /-- The listener made from the socket. -/
  listener : TcpListener
  /-- The certificate and the key read from the two paths. -/
  serverConfig : String → String → IoResult ServerConfig
  pollAdd : IoResult Unit

/-- What is answered while a remote is registered. -/
structure RegisterEnv where
  pollAdd : IoResult Unit
  /-- Loading the certificates of the platform. -/
  nativeCerts : IoResult Unit
  serverName : String → Bool
  clientConnection : Bool

/-! Answers with which everything goes well, for runs on fixed inputs. -/

/-- A stream that is connected to `addr`. -/
def PendingEnv.connectedTo (addr : SocketAddr) : PendingEnv := ⟨.ok none, .ok addr, .done⟩

/-- A turn in which a plain stream is read. -/
def ReadEnv.ofRead (read : ReadCall) : ReadEnv := ⟨read, .ok (), .other, .ok ()⟩

def RegisterEnv.fine : RegisterEnv := ⟨.ok (), .ok (), fun _ ↦ true, true⟩

/-- A socket that connects from `localAddr`. -/
def ConnectEnv.fine (stream : TcpStream) (localAddr : SocketAddr) : ConnectEnv where
  newSocket _ := .ok ()
  setNonblocking := .ok ()
  setNodelay := .ok ()
  bind _ := .ok ()
  bindDevice _ := .ok ()
  connect _ := .ok ()
  localAddr := .ok localAddr
  stream := stream
  display _ := ""
  parseUri _ := none
  parseUrl _ := none
  socketAddrs _ := .ok []

/-- A socket that listens at `localAddr`. -/
def ListenEnv.fine (listener : TcpListener) (localAddr : SocketAddr) : ListenEnv where
  newSocket _ := .ok ()
  setNonblocking := .ok ()
  setNodelay := .ok ()
  setReuseAddress := .ok ()
  bindDevice _ := .ok ()
  bind _ := .ok ()
  listen := .ok ()
  localAddr := .ok localAddr
  listener := listener
  serverConfig _ _ := .ok ⟨0⟩
  pollAdd := .ok ()

/-! ## The traits -/

/-- One turn of the loop of `Remote::receive`: the data it processes, if any, and the
status if the loop ends with this turn. -/
structure ReceiveTurn where
  data : Option Bytes
  status : Option ReadStatus
deriving DecidableEq, Repr

namespace ReceiveTurn

/-- Some data is processed and the loop goes on. -/
def received (data : Bytes) : ReceiveTurn := ⟨some data, none⟩

/-- The loop goes on. -/
def again : ReceiveTurn := ⟨none, none⟩

/-- The loop ends. -/
def done (status : ReadStatus) : ReceiveTurn := ⟨none, some status⟩

end ReceiveTurn

/-- A resource used to represent a remote. -/
class Remote (R : Type) where
  /-- `Resource::source`: the stream that the poll watches. -/
  source : R → Except Halt TcpStream
  pending : R → PendingEnv → Except Halt (PendingStatus × R)
  receiveTurn : R → ReadEnv → Except Halt (ReceiveTurn × R)
  send : R → Bytes → SendEnv → Proc Written Halt SendStatus
  readyToWrite : R → Bool := fun _ ↦ true

/-- The type of what a listener accepts. -/
inductive AcceptedType where
  | remote (addr : SocketAddr) (stream : TcpStream) (payload : Payload)
  | data (addr : SocketAddr) (data : Bytes)
deriving DecidableEq, Repr

/-- One turn of the loop of `Local::accept`. -/
inductive AcceptTurn where
  | accepted (accepted : AcceptedType)
  | again
  | done
deriving DecidableEq, Repr

/-- A resource used to represent a local listener. -/
class Local (L : Type) where
  /-- The listener and its address. -/
  listenWith : ListenConfig → SocketAddr → ListenEnv → Except Halt (IoResult (L × SocketAddr))
  acceptTurn : L → AcceptCall → AcceptTurn
  sendTo : L → SocketAddr → Bytes → Except Halt SendStatus :=
    fun _ _ _ ↦ .error (.panic .sendTo)

/-- What the connection of a socket yields. -/
structure ConnectionInfo where
  stream : TcpStream
  localAddr : SocketAddr
  peerAddr : SocketAddr
  keepaliveOpt : Option TcpKeepalive
  domainOpt : Option String
deriving DecidableEq, Repr

/-- The two resources of a transport, and what its driver does in its own way: set up a
connection, and build a resource from what travels in a register command. -/
class Adapter (R L : Type) extends Remote R, Local L where
  /-- A connection, with the payload of the command that will register it. -/
  connect : ConnectConfig → RemoteAddr → ConnectEnv →
    Except Halt (IoResult (ConnectionInfo × Payload))
  acceptedResource : TcpStream → Payload → Except Halt R
  connectedResource : TcpStream → Payload → RegisterEnv → Except Halt R

/-- The loop of `Remote::receive`, as far as the answers reach: the data it
processes, and the status it ends with. -/
def Remote.receive {R : Type} [Remote R] (r : R) :
    List ReadEnv → Proc Bytes Halt (ReadStatus × R)
  | [] => .halt .running
  | env :: envs => do
      let (turn, r) ← Proc.ofExcept (Remote.receiveTurn r env)
      Proc.perform turn.data.toList
      match turn.status with
      | none => Remote.receive r envs
      | some status => pure (status, r)

/-- What a `receive` comes to is what its first turn leaves. -/
theorem Remote.result_receive {R : Type} [Remote R] {r r' : R} {env : ReadEnv}
    {envs : List ReadEnv} {turn : ReceiveTurn} (h : Remote.receiveTurn r env = .ok (turn, r')) :
    (Remote.receive r (env :: envs)).result =
      match turn.status with
      | none => (Remote.receive r' envs).result
      | some status => .ok (status, r') := by
  have hturn : (Proc.ofExcept (Remote.receiveTurn r env) : Proc Bytes Halt _).result =
      .ok (turn, r') := h
  change (Proc.ofExcept (Remote.receiveTurn r env) >>= _).result = _
  rw [Proc.result_bind_ok hturn]
  obtain ⟨data, status⟩ := turn
  cases status <;> rfl

end MessageIo
