import MessageIo.Lib.Proc
import MessageIo.Util.Encoding
import MessageIo.Network.ResourceId

/-!
# What the network layer is made of

Addresses, endpoints, events, commands and the results of calls, in the shape
the `network` module of the source gives them.  Objects of other crates that are
only handed on (a stream, a listener, keepalive settings) are names: two of them
are the same object when the names are equal.  So are the callbacks of the user,
of which all that matters here is which one is invoked, when and with what.
-/

namespace MessageIo

/-! ## Objects handed on -/

/-- A `mio::net::TcpStream`. -/
structure TcpStream where
  name : Nat
deriving DecidableEq, Repr

/-- A `mio::net::TcpListener`. -/
structure TcpListener where
  name : Nat
deriving DecidableEq, Repr

/-- A `socket2::TcpKeepalive`. -/
structure TcpKeepalive where
  name : Nat
deriving DecidableEq, Repr

/-- A `rustls::ServerConfig`. -/
structure ServerConfig where
  name : Nat
deriving DecidableEq, Repr

/-- A `url::Url`. -/
structure Url where
  text : String
deriving DecidableEq, Repr

/-- An `http::Uri`, of which only the host is asked for. -/
structure Uri where
  host : Option String
deriving DecidableEq, Repr

/-- A closure of the user that some command carries. -/
structure Callback where
  name : Nat
deriving DecidableEq, Repr

/-! ## Results of calls -/

/-- The kinds of `io::ErrorKind` that the source tells apart. -/
inductive ErrorKind where
  | wouldBlock
  | interrupted
  | connectionReset
  | notConnected
  | invalidInput
  | notFound
  | other
deriving DecidableEq, Repr

/-- An `io::Error`: its kind, and the error of the operating system behind it. -/
structure IoError where
  kind : ErrorKind
  rawOsError : Option Int
deriving DecidableEq, Repr

/-- `io::Result` -/
abbrev IoResult (α : Type) := Except IoError α

/-- `libc::EINPROGRESS` -/
def einprogress : Int := 115

/-- The places where a thread of the node can panic. -/
inductive Panic where
  /-- `RemoteAddr::socket_addr`: "The RemoteAddr must be a SocketAddr" -/
  | socketAddr
  /-- `Local::send_to`: "Adapter not configured to send messages directly from the
  local resource" -/
  | sendTo
  /-- `UnimplementedDriver`: "The chosen adapter id doesn't reference an existing
  adapter" -/
  | unimplementedDriver
  /-- An `assert!` or a `debug_assert!` -/
  | assertion
  /-- `unwrap` or `expect` of a call that failed -/
  | unwrap
  /-- An index or a slice bound out of range -/
  | slice
  /-- `unreachable!()` -/
  | unreachable
  /-- `downcast_unchecked` to another type than the one that was boxed -/
  | downcast
deriving DecidableEq, Repr

/-- What keeps a call from returning. -/
inductive Halt where
  | panic (p : Panic)
  /-- The calls answered so far leave a loop running. -/
  | running
deriving DecidableEq, Repr

/-! ## Addresses and endpoints -/

/-- `std::net::SocketAddr` -/
inductive SocketAddr where
  | v4 (ip : BitVec 32) (port : BitVec 16)
  | v6 (ip : BitVec 128) (port : BitVec 16) (flowinfo scopeId : BitVec 32)
deriving DecidableEq, Repr

/-- `127.0.0.1`, with a port. -/
def SocketAddr.localhost (port : BitVec 16) : SocketAddr := v4 0x7F000001 port

/-- A remote address: a socket address, or a string for protocols that need more
than that. -/
inductive RemoteAddr where
  | socket (addr : SocketAddr)
  | str (string : String)
deriving DecidableEq, Repr

namespace RemoteAddr

def isSocketAddr : RemoteAddr → Bool
  | socket _ => true
  | str _ => false

/-- The source matches on `Socket` here as well. -/
def isString : RemoteAddr → Bool
  | socket _ => true
  | str _ => false

def socketAddr : RemoteAddr → Except Halt SocketAddr
  | socket addr => .ok addr
  | str _ => .error (.panic .socketAddr)

/-- `ToRemoteAddr for &str`: any string is accepted, `parse` tells those of the form
`ip:port` from the others. -/
def ofString (parse : String → Option SocketAddr) (s : String) : RemoteAddr :=
  match parse s with
  | some addr => socket addr
  | none => str s

end RemoteAddr

/-- Information to identify the remote endpoint. -/
structure Endpoint where
  resourceId : ResourceId
  addr : SocketAddr
deriving DecidableEq, Repr

/-! ## Transports -/

/-- The underlying transport used. -/
inductive Transport where
  | tcp
  | ssl
  | ws
deriving DecidableEq, Repr

namespace Transport

/-- The adapter id used for this transport. -/
def id : Transport → BitVec 8
  | tcp => 0
  | ssl => 2
  | ws => 3

theorem id_injective : Function.Injective id := by
  intro s t h
  cases s <;> cases t <;> first | rfl | cases h

end Transport

/-! ## Configurations -/

structure ConnectConfig where
  bindDeviceOpt : Option String
  sourceAddressOpt : Option SocketAddr
  keepaliveOpt : Option TcpKeepalive
deriving DecidableEq, Repr

def ConnectConfig.default : ConnectConfig := ⟨none, none, none⟩

structure ListenConfig where
  bindDeviceOpt : Option String
  keepaliveOpt : Option TcpKeepalive
  certPath : String
  priKeyPath : String
deriving DecidableEq, Repr

def ListenConfig.default : ListenConfig := ⟨none, none, "", ""⟩

/-! ## Events and commands -/

/-- A network event that an internal transport adapter has produced. -/
inductive NetEvent where
  | connected (endpoint : Endpoint) (status : Bool)
  | accepted (endpoint : Endpoint) (listenerId : ResourceId)
  | message (endpoint : Endpoint) (data : Bytes)
  | disconnected (endpoint : Endpoint)
deriving DecidableEq, Repr

/-- The endpoint an event is about. -/
def NetEvent.endpoint : NetEvent → Endpoint
  | connected ep _ => ep
  | accepted ep _ => ep
  | message ep _ => ep
  | disconnected ep => ep

/-- What travels in the box of a register command. -/
inductive Payload where
  | tcpAccept (keepaliveOpt : Option TcpKeepalive)
  | tcpConnect (keepaliveOpt : Option TcpKeepalive)
  | sslAccept (keepaliveOpt : Option TcpKeepalive) (serverConfig : ServerConfig)
  | sslConnect (keepaliveOpt : Option TcpKeepalive) (domainOpt : Option String)
  | wsAccept (keepaliveOpt : Option TcpKeepalive)
  | wsConnect (url : Url) (keepaliveOpt : Option TcpKeepalive)
deriving DecidableEq, Repr

/-- The commands that are posted to the queue of a worker or of the master. -/
inductive WakerCommand where
  | greet (text : String)
  | acceptRegisterRemote (localPair remotePair : ResourceId × SocketAddr) (stream : TcpStream)
      (payload : Payload)
  | connectRegisterRemote (localAddr : SocketAddr) (remotePair : ResourceId × SocketAddr)
      (stream : TcpStream) (payload : Payload) (cb : Callback)
  | listen (config : ListenConfig) (localId : ResourceId) (addr : SocketAddr) (cb : Callback)
  | connect (config : ConnectConfig) (remoteId : ResourceId) (raddr : RemoteAddr) (cb : Callback)
  | send (endpoint : Endpoint) (buffer : Bytes)
  | sendSync (endpoint : Endpoint) (buffer : Bytes) (cb : Callback)
  | close (resourceId : ResourceId)
  | isReady (resourceId : ResourceId) (cb : Callback)
  | stop
deriving DecidableEq, Repr

/-- What the event callback of the node is called with. -/
inductive NodeEvent where
  | network (e : NetEvent)
  | waker (c : WakerCommand)
deriving DecidableEq, Repr

/-- What a callback is invoked with, by the command that carries it. -/
inductive Reply where
  | connect (ret : IoResult (Endpoint × SocketAddr))
  | listen (ret : IoResult (ResourceId × SocketAddr))
  | sent
  | isReady (ret : Option Bool)

/-- Bytes that a stream took. -/
structure Written where
  stream : TcpStream
  data : Bytes
deriving DecidableEq, Repr

/-- What processing a command or a poll event does to the world outside of the
drivers, in the order of the effects. -/
inductive Effect where
  /-- The event callback is called. -/
  | emit (e : NodeEvent)
  /-- `NodeHandler::post`: to the worker in charge of the id. -/
  | post (id : ResourceId) (c : WakerCommand)
  /-- A callback is invoked. -/
  | call (cb : Callback) (reply : Reply)
  /-- A stream takes bytes. -/
  | write (w : Written)

/-- The command that an effect posts to a worker. -/
def postOf : Effect → Option WakerCommand
  | .post _ c => some c
  | _ => none

/-- The commands that some effects post to a worker. -/
def posts (es : List Effect) : List WakerCommand := es.filterMap postOf

/-- The invocation that an effect is. -/
def callOf : Effect → Option (Callback × Reply)
  | .call cb reply => some (cb, reply)
  | _ => none

/-- The callbacks that some effects invoke. -/
def calls (es : List Effect) : List (Callback × Reply) := es.filterMap callOf

/-- Code of the drivers: it has effects and may panic. -/
abbrev Action (α : Type) := Proc Effect Halt α

/-- `unwrap` and `expect` -/
def unwrap {α β : Type} : Except α β → Except Halt β
  | .ok b => .ok b
  | .error _ => .error (.panic .unwrap)

/-- `Option::unwrap` -/
def unwrapOpt {α : Type} : Option α → Except Halt α
  | some a => .ok a
  | none => .error (.panic .unwrap)

/-- The id that a generator hands out, unless its assertion stops the caller. -/
def generated : Option ResourceId → Except Halt ResourceId
  | some id => .ok id
  | none => .error (.panic .assertion)

/-! ## Results -/

/-- Results in sequence: all goes well if each does. -/
theorem bind_eq_ok {ε α β : Type} {r : Except ε α} {f : α → Except ε β} {b : β} :
    (r >>= f) = .ok b ↔ ∃ a, r = .ok a ∧ f a = .ok b := by
  cases r with
  | error e =>
      constructor
      · intro h
        cases h
      · rintro ⟨a, h, -⟩
        cases h
  | ok a =>
      constructor
      · intro h
        exact ⟨a, rfl, h⟩
      · rintro ⟨a', h, h'⟩
        cases h
        exact h'

theorem map_eq_ok {ε α β : Type} {r : Except ε α} {f : α → β} {b : β} :
    r.map f = .ok b ↔ ∃ a, r = .ok a ∧ f a = b := by
  cases r with
  | error e => exact ⟨nofun, fun ⟨_, h, _⟩ ↦ absurd h nofun⟩
  | ok a =>
      constructor
      · intro h
        exact ⟨a, rfl, Except.ok.inj h⟩
      · rintro ⟨a', h, rfl⟩
        cases h
        rfl

theorem unwrap_eq_ok {ε α : Type} {r : Except ε α} {a : α} : unwrap r = .ok a ↔ r = .ok a := by
  cases r with
  | error e => exact ⟨nofun, nofun⟩
  | ok a' => exact ⟨fun h ↦ congrArg _ (Except.ok.inj h), fun h ↦ congrArg _ (Except.ok.inj h)⟩

theorem unwrapOpt_eq_ok {α : Type} {o : Option α} {a : α} : unwrapOpt o = .ok a ↔ o = some a := by
  cases o with
  | none => exact ⟨nofun, nofun⟩
  | some a' => exact ⟨fun h ↦ congrArg _ (Except.ok.inj h), fun h ↦ congrArg _ (Option.some.inj h)⟩

end MessageIo
