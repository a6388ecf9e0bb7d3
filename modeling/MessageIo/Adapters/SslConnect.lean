import MessageIo.Network.Callbacks

/-!
# Connecting with TLS (`ssl_driver.rs`, `ssl_remote.rs`, `ssl_connector.rs`)

The address of the peer goes through its text: it is printed, read as a `Uri`, and the host of
that is the name to check the certificate against.  The text of an IPv6 address has brackets
around the address, which the host keeps and which no server name has.  So the worker that gets
the connection of an IPv6 peer panics.

`connects_iff` says when a connect does what it should: the peer is an IPv4 address, and nothing
that is asked of the system or of `rustls` fails.
-/

namespace MessageIo

/-! ## The text of an address

The `Display` of the standard library. -/

/-- `Ipv4Addr` -/
def displayIpv4 (ip : BitVec 32) : String :=
  ".".intercalate ([24, 16, 8, 0].map fun shift ↦ toString (ip.toNat / 2 ^ shift % 2 ^ 8))

/-- `Ipv6Addr::segments` -/
def segments (ip : BitVec 128) : List Nat :=
  [112, 96, 80, 64, 48, 32, 16, 0].map fun shift ↦ ip.toNat / 2 ^ shift % 2 ^ 16

/-- Where some segments of an address are zero. -/
structure Span where
  start : Nat
  len : Nat
deriving DecidableEq, Repr

/-- The longest span of zeros, and the first of them if there are more. -/
def longestZeroes (i : Nat) (longest current : Span) : List Nat → Span
  | [] => longest
  | 0 :: segments =>
      let current := if current.len = 0 then ⟨i, 1⟩ else ⟨current.start, current.len + 1⟩
      longestZeroes (i + 1) (if longest.len < current.len then current else longest) current
        segments
  | _ :: segments => longestZeroes (i + 1) longest ⟨0, 0⟩ segments

def displaySegments (segments : List Nat) : String :=
  ":".intercalate (segments.map fun segment ↦ String.ofList (Nat.toDigits 16 segment))

/-- `Ipv6Addr`: IPv4-mapped addresses end in an IPv4 address, and of the other ones the longest
zeros are left out. -/
def displayIpv6 (ip : BitVec 128) : String :=
  if ip.toNat / 2 ^ 32 = 0xffff then "::ffff:" ++ displayIpv4 (ip.setWidth 32)
  else
    let zeroes := longestZeroes 0 ⟨0, 0⟩ ⟨0, 0⟩ (segments ip)
    if 1 < zeroes.len then
      displaySegments ((segments ip).take zeroes.start) ++ "::" ++
        displaySegments ((segments ip).drop (zeroes.start + zeroes.len))
    else displaySegments (segments ip)

namespace SocketAddr

def isIpv4 : SocketAddr → Bool
  | v4 .. => true
  | v6 .. => false

/-- What an address has in front of its port. -/
def host : SocketAddr → String
  | v4 ip _ => displayIpv4 ip
  | v6 ip _ _ scopeId =>
      "[" ++ (displayIpv6 ip ++ (if scopeId = 0 then "" else "%" ++ toString scopeId.toNat) ++ "]")

def port : SocketAddr → BitVec 16
  | v4 _ port => port
  | v6 _ port _ _ => port

def display (addr : SocketAddr) : String := addr.host ++ ":" ++ toString addr.port.toNat

end SocketAddr

example : (SocketAddr.localhost 443).display = "127.0.0.1:443" := by decide +kernel

example : (SocketAddr.v6 0xfe800000000000000000000000000001 443 0 2).display =
    "[fe80::1%2]:443" := by decide +kernel

example : (SocketAddr.v6 0x00000000000000000000ffff7f000001 443 0 0).display =
    "[::ffff:127.0.0.1]:443" := by decide +kernel

namespace Ssl

/-! ## What a connect is for -/

/-- What other crates make of the text of a peer. -/
structure ReadsPeer (peer : SocketAddr) (env : ConnectEnv) (register : RegisterEnv) : Prop where
  display : env.display peer = peer.display
  /-- The host of a `Uri` keeps its brackets. -/
  host : ∀ uri, env.parseUri peer.display = some uri → uri.host = some peer.host
  parses : peer.isIpv4 = true → (env.parseUri peer.display).isSome = true
  serverName : peer.isIpv4 = true → register.serverName peer.host = true
  /-- A server name is a DNS name or an IP address without brackets. -/
  unbracketed : ∀ s, register.serverName ("[" ++ s) = false

section

variable (transports : List Transport) (ps ps' : Processors) (env env' : CommandEnv)
  (config : ConnectConfig) (remoteId : ResourceId) (peer : SocketAddr) (cb : Callback)

/-- The callback is told of a connection, which has been registered by then. -/
def ToldOk : Prop :=
  ∃ addr, invocations transports ps ps' env env' (.connect config remoteId (.socket peer) cb) =
      [(cb, .connect (.ok (⟨remoteId, peer⟩, addr)))] ∧
    ∃ c ∈ posts (processCommand transports ps (.connect config remoteId (.socket peer) cb)
        env).effects, ∃ done, (processCommand transports ps' c env').result = .ok done ∧
      ∃ r : Register RemoteResource RemoteProperties, (done .ssl).remote remoteId = some r ∧
        r.resource.stream = .rustlsClientConnection env.connect.stream

/-- The callback is told of an error. -/
def ToldError : Prop :=
  ∃ err, invocations transports ps ps' env env' (.connect config remoteId (.socket peer) cb) =
    [(cb, .connect (.error err))]

/-- Neither the thread that sets up the socket panics, nor the one that registers it, and the
callback is told of a connection or of an error. -/
structure Connects : Prop where
  connect_ne_panic : ∀ p,
    (processCommand transports ps (.connect config remoteId (.socket peer) cb) env).result ≠
      .error (.panic p)
  register_ne_panic : ∀ c ∈ posts (processCommand transports ps
      (.connect config remoteId (.socket peer) cb) env).effects, ∀ p,
    (processCommand transports ps' c env').result ≠ .error (.panic p)
  told : ToldOk transports ps ps' env env' config remoteId peer cb ∨
    ToldError transports ps ps' env env' config remoteId peer cb

end

/-- Everything that is asked for on the way of a connection goes well. -/
structure ConnectHolds (config : ConnectConfig) (peer : SocketAddr) (env : ConnectEnv)
    (register : RegisterEnv) : Prop where
  ipv4 : peer.isIpv4 = true
  socket : SocketConnects config peer env
  nativeCerts : register.nativeCerts = .ok ()
  clientConnection : register.clientConnection = true
  pollAdd : register.pollAdd = .ok ()

section

variable {transports : List Transport} {ps ps' : Processors} {env env' : CommandEnv}
  {config : ConnectConfig} {remoteId : ResourceId} {peer : SocketAddr} {cb : Callback}

/-! ## What is invoked -/

/-- A connect that invokes something is one whose every step went well. -/
theorem fine_of_invocations (hget : getProcessor transports remoteId = .ok .ssl)
    (h : invocations transports ps ps' env env' (.connect config remoteId (.socket peer) cb) ≠ []) :
    ConnectFine config (.socket peer) env.connect env'.register .ssl ∧
      env'.register.pollAdd = .ok () := by
  by_contra hnot
  rw [invocations, effects_connect hget] at h
  cases hconnect : Adapter.connect RemoteResource LocalResource config (.socket peer)
      env.connect with
  | error x => exact h (by rw [hconnect]; rfl)
  | ok ret =>
      cases ret with
      | error err => exact h (by rw [hconnect]; rfl)
      | ok done =>
          obtain ⟨info, payload⟩ := done
          have hregisters : ¬ Registers info payload env'.register .ssl := by
            rintro ⟨⟨r, hr⟩, hadd⟩
            exact hnot ⟨(connectHops .ssl).1 ⟨info, payload, r, hconnect, hr⟩, hadd⟩
          refine h ?_
          rw [hconnect]
          change [] ++ (calls (processCommand transports ps' (registration remoteId cb info payload)
            env').effects ++ []) = []
          rw [effects_registration_halt hget hregisters]
          rfl

/-! ## A peer with an IPv6 address -/

/-- A host with brackets is no server name. -/
theorem serverName_ipv6 {env : ConnectEnv} {register : RegisterEnv}
    (h : ReadsPeer peer env register) (hpeer : peer.isIpv4 = false) :
    register.serverName peer.host = false := by
  cases peer with
  | v4 ip port => cases hpeer
  | v6 ip port flowinfo scopeId => exact h.unbracketed _

/-- **Only an IPv4 peer is connected to.** -/
theorem isIpv4_of_fine {env : ConnectEnv} {register : RegisterEnv}
    (h : ReadsPeer peer env register)
    (hfine : ConnectFine config (.socket peer) env register .ssl) : peer.isIpv4 = true := by
  obtain ⟨peerAddr, uri, domain, hpeer, -, huri, hhost, -, hname, -⟩ := hfine
  cases hpeer
  rw [h.display] at huri
  obtain rfl : domain = peer.host := Option.some.inj (hhost.symm.trans (h.host uri huri))
  rw [← Bool.not_eq_false]
  intro hipv6
  rw [serverName_ipv6 h hipv6] at hname
  cases hname

/-! ## A peer with an IPv4 address -/

/-- The connection that the master makes. -/
def connection (config : ConnectConfig) (peer : SocketAddr) (env : ConnectEnv) (addr : SocketAddr) :
    ConnectionInfo :=
  ⟨env.stream, addr, peer, config.keepaliveOpt, some peer.host⟩

/-- The command that is left for the worker. -/
def connected (config : ConnectConfig) (remoteId : ResourceId) (peer : SocketAddr)
    (env : ConnectEnv) (addr : SocketAddr) (cb : Callback) : WakerCommand :=
  registration remoteId cb (connection config peer env addr)
    (.sslConnect config.keepaliveOpt (some peer.host))

/-- The drivers of a worker that has registered it. -/
def withConnection (ps : Processors) (config : ConnectConfig) (remoteId : ResourceId)
    (peer : SocketAddr) (stream : TcpStream) : Processors :=
  let resource : RemoteResource := ⟨.rustlsClientConnection stream, config.keepaliveOpt⟩
  let registry := (ps .ssl).remoteRegistry.register remoteId resource (.new peer none)
  Function.update ps .ssl { ps .ssl with remoteRegistry := registry }

theorem remote_withConnection (ps : Processors) (config : ConnectConfig) (remoteId : ResourceId)
    (peer : SocketAddr) (stream : TcpStream) :
    (withConnection ps config remoteId peer stream .ssl).remote remoteId =
      some ⟨⟨.rustlsClientConnection stream, config.keepaliveOpt⟩, .new peer none⟩ := by
  rw [withConnection, Function.update_self]
  exact ResourceRegistry.get_register_self _ _ _ _

/-- The socket is set up. -/
theorem processCommand_connect {addr : SocketAddr} (h : ReadsPeer peer env.connect env'.register)
    (hget : getProcessor transports remoteId = .ok .ssl)
    (hparses : (env.connect.parseUri peer.display).isSome = true)
    (hsocket : SocketConnects config peer env.connect) (haddr : env.connect.localAddr = .ok addr) :
    processCommand transports ps (.connect config remoteId (.socket peer) cb) env =
      ⟨[.post remoteId (connected config remoteId peer env.connect addr cb)], .ok ps⟩ := by
  obtain ⟨uri, huri⟩ := Option.isSome_iff_exists.1 hparses
  have hhost := h.host uri huri
  rw [← h.display] at huri
  have hconnect : Adapter.connect RemoteResource LocalResource config (.socket peer) env.connect =
      .ok (.ok (connection config peer env.connect addr,
        .sslConnect config.keepaliveOpt (some peer.host))) := by
    refine bind_eq_ok.2 ⟨uri, unwrapOpt_eq_ok.2 huri, congrArg Except.ok ?_⟩
    refine map_eq_ok.2 ⟨connection config peer env.connect addr,
      remoteConnectWith_eq_ok.2 ⟨hsocket, some peer.host, addr, ?_, haddr, rfl⟩, rfl⟩
    rw [hhost]
  rw [processCommand, hget, Proc.ofExcept_ok_bind, Driver.processConnect, hconnect]
  rfl

/-- The connection is registered. -/
theorem processCommand_connected {addr : SocketAddr}
    (h : ReadsPeer peer env.connect env'.register)
    (hget : getProcessor transports remoteId = .ok .ssl)
    (hholds : ConnectHolds config peer env.connect env'.register) :
    processCommand transports ps' (connected config remoteId peer env.connect addr cb) env' =
      ⟨[.call cb (.connect (.ok (⟨remoteId, peer⟩, addr)))],
        .ok (withConnection ps' config remoteId peer env.connect.stream)⟩ := by
  have hresource : Adapter.connectedResource LocalResource env.connect.stream
      (.sslConnect config.keepaliveOpt (some peer.host)) env'.register =
        .ok (⟨.rustlsClientConnection env.connect.stream, config.keepaliveOpt⟩ :
          RemoteResource) := by
    have hwrap : wrapStream env.connect.stream peer.host env'.register =
        .ok (some (.rustlsClientConnection env.connect.stream)) :=
      wrapStream_eq_ok.2
        ⟨hholds.nativeCerts, ⟨h.serverName hholds.ipv4, hholds.clientConnection⟩, rfl⟩
    change wrapStream env.connect.stream peer.host env'.register >>= _ = _
    rw [hwrap]
    rfl
  rw [connected, registration, processCommand, hget, Proc.ofExcept_ok_bind,
    Driver.processConnectRegisterRemote, connection, hresource, Proc.ofExcept_ok_bind,
    Driver.registerRemote, hholds.pollAdd]
  rfl

/-- The master sets up the socket, and what it posts is registered. -/
theorem connects_of_holds (h : ReadsPeer peer env.connect env'.register)
    (hget : getProcessor transports remoteId = .ok .ssl)
    (hholds : ConnectHolds config peer env.connect env'.register) :
    Connects transports ps ps' env env' config remoteId peer cb := by
  obtain ⟨addr, haddr⟩ := hholds.socket.localAddr
  have hmaster : processCommand transports ps (.connect config remoteId (.socket peer) cb) env =
      _ := processCommand_connect h hget (h.parses hholds.ipv4) hholds.socket haddr
  have hworker : processCommand transports ps'
      (connected config remoteId peer env.connect addr cb) env' = _ :=
    processCommand_connected h hget hholds
  have hposts : posts (processCommand transports ps (.connect config remoteId (.socket peer) cb)
      env).effects = [connected config remoteId peer env.connect addr cb] := by
    rw [hmaster]
    rfl
  constructor
  case connect_ne_panic =>
    intro p hp
    rw [hmaster] at hp
    cases hp
  case register_ne_panic =>
    intro c hc p hp
    rw [hposts, List.mem_singleton] at hc
    rw [hc, hworker] at hp
    cases hp
  case told =>
    refine .inl ⟨addr, ?_, connected config remoteId peer env.connect addr cb, ?_,
      withConnection ps' config remoteId peer env.connect.stream, ?_⟩
    · rw [invocations, hposts, List.flatMap_singleton, hworker, hmaster]
      rfl
    · rw [hposts]
      exact List.mem_cons_self
    · rw [hworker]
      exact ⟨rfl, _, remote_withConnection .., rfl⟩

/-- The connection of an IPv6 peer is not registered: its host is no server name, which the
source takes to be unreachable. -/
theorem processCommand_connected_ipv6 {addr : SocketAddr}
    (h : ReadsPeer peer env.connect env'.register)
    (hget : getProcessor transports remoteId = .ok .ssl) (hpeer : peer.isIpv4 = false)
    (hcerts : env'.register.nativeCerts = .ok ()) :
    processCommand transports ps' (connected config remoteId peer env.connect addr cb) env' =
      ⟨[], .error (.panic .unreachable)⟩ := by
  have hwrap : wrapStream env.connect.stream peer.host env'.register = .ok none := by
    rw [wrapStream, hcerts, serverName_ipv6 h hpeer]
    rfl
  have hresource : (Adapter.connectedResource LocalResource env.connect.stream
      (.sslConnect config.keepaliveOpt (some peer.host)) env'.register :
        Except Halt RemoteResource) = .error (.panic .unreachable) := by
    change wrapStream env.connect.stream peer.host env'.register >>= _ = _
    rw [hwrap]
    rfl
  rw [connected, registration, processCommand, hget, Proc.ofExcept_ok_bind,
    Driver.processConnectRegisterRemote, connection, hresource]
  rfl

/-- **When a connect does what it should**: exactly if the peer is an IPv4 address and nothing
fails.  A socket that fails loses the callback, and an IPv6 peer makes the worker panic. -/
theorem connects_iff (h : ReadsPeer peer env.connect env'.register)
    (hget : getProcessor transports remoteId = .ok .ssl) :
    Connects transports ps ps' env env' config remoteId peer cb ↔
      ConnectHolds config peer env.connect env'.register := by
  refine ⟨fun hconnects ↦ ?_, connects_of_holds h hget⟩
  have hinvoked : invocations transports ps ps' env env'
      (.connect config remoteId (.socket peer) cb) ≠ [] := by
    rcases hconnects.told with ⟨addr, hinvocations, -⟩ | ⟨err, hinvocations⟩
    · rw [hinvocations]
      exact List.cons_ne_nil _ _
    · rw [hinvocations]
      exact List.cons_ne_nil _ _
  obtain ⟨hfine, hadd⟩ := fine_of_invocations hget hinvoked
  have hipv4 := isIpv4_of_fine h hfine
  obtain ⟨peerAddr, uri, domain, hpeer, hsocket, -, -, hcerts, -, hclient⟩ := hfine
  cases hpeer
  exact ⟨hipv4, hsocket, hcerts, hclient, hadd⟩

end

/-! ## Two peers -/

/-- The host of a text that ends in a port. -/
def parseAuthority (s : String) : Option Uri :=
  some ⟨some (String.ofList ((s.toList.reverse.dropWhile (· ≠ ':')).drop 1).reverse)⟩

def hasNoBracket (s : String) : Bool := s.toList.head? ≠ some '['

/-- Answers with which everything goes well. -/
def textual : CommandEnv :=
  let fine := CommandEnv.fine []
  { fine with
    connect := { fine.connect with display := SocketAddr.display, parseUri := parseAuthority }
    register := { fine.register with serverName := hasNoBracket } }

theorem hasNoBracket_append (s : String) : hasNoBracket ("[" ++ s) = false := by
  simp [hasNoBracket]

theorem readsPeer_ipv4 :
    ReadsPeer (.localhost 443) textual.connect textual.register where
  display := rfl
  host uri huri := by
    have hparse : textual.connect.parseUri (SocketAddr.localhost 443).display =
        some ⟨some (SocketAddr.localhost 443).host⟩ := by decide +kernel
    rw [Option.some.inj (huri.symm.trans hparse)]
  parses _ := rfl
  serverName _ := by decide +kernel
  unbracketed := hasNoBracket_append

/-- A peer with an IPv4 address is connected to. -/
theorem connects_ipv4 : Connects [.ssl] .new .new textual textual .default
    ⟨0x0002000000000001⟩ (.localhost 443) ⟨0⟩ := by
  refine (connects_iff readsPeer_ipv4 rfl).2 ⟨rfl, ⟨rfl, rfl, rfl, nofun, nofun, .inl rfl, ?_⟩,
    rfl, rfl, rfl⟩
  exact ⟨_, rfl⟩

/-- `[::1]:443` -/
def localhost6 : SocketAddr := .v6 1 443 0 0

theorem readsPeer_ipv6 : ReadsPeer localhost6 textual.connect textual.register where
  display := rfl
  host uri huri := by
    have hparse : textual.connect.parseUri localhost6.display = some ⟨some localhost6.host⟩ := by
      decide +kernel
    rw [Option.some.inj (huri.symm.trans hparse)]
  parses _ := rfl
  serverName h := nomatch h
  unbracketed := hasNoBracket_append

/-- **A worker that is left to register a connection to `[::1]:443` panics.** -/
theorem panics_ipv6 :
    ReadsPeer localhost6 textual.connect textual.register ∧
      SocketConnects .default localhost6 textual.connect ∧
        ¬ Connects [.ssl] .new .new textual textual .default ⟨0x0002000000000001⟩ localhost6 ⟨0⟩ ∧
          ∃ c, posts (processCommand [.ssl] .new
              (.connect .default ⟨0x0002000000000001⟩ (.socket localhost6) ⟨0⟩)
              textual).effects = [c] ∧
            (processCommand [.ssl] .new c textual).result = .error (.panic .unreachable) := by
  have hsocket : SocketConnects .default localhost6 textual.connect :=
    ⟨rfl, rfl, rfl, nofun, nofun, .inl rfl, _, rfl⟩
  have hposts : posts (processCommand [.ssl] .new
      (.connect .default ⟨0x0002000000000001⟩ (.socket localhost6) ⟨0⟩) textual).effects =
        [connected .default ⟨0x0002000000000001⟩ localhost6 textual.connect (.localhost 80)
          ⟨0⟩] := by
    rw [processCommand_connect readsPeer_ipv6 rfl rfl hsocket rfl]
    rfl
  have hpanics : (processCommand [.ssl] .new
      (connected .default ⟨0x0002000000000001⟩ localhost6 textual.connect (.localhost 80) ⟨0⟩)
      textual).result = .error (.panic .unreachable) := by
    rw [processCommand_connected_ipv6 readsPeer_ipv6 rfl rfl rfl]
  refine ⟨readsPeer_ipv6, hsocket, fun h ↦ ?_, _, hposts, hpanics⟩
  refine h.register_ne_panic _ ?_ .unreachable hpanics
  rw [hposts]
  exact List.mem_cons_self

end Ssl

end MessageIo
