import MessageIo.Network.Multiplexor

/-!
# Whether a callback is invoked

`Listen`, `Connect`, `SendSync` and `IsReady` carry a callback.  A `Connect` takes two
steps: the master sets up the socket and posts the registration, with the callback,
to the worker of the id.  `answered_once_iff` says which answers of the operating
system lead to one invocation, for all four commands and all three drivers; in every
other case there is none.  In particular every error on the way to a connected socket
loses the callback.
-/

namespace MessageIo

/-! ## Invocations -/

/-- The callback that a command of the user carries. -/
def WakerCommand.callback : WakerCommand → Option Callback
  | listen _ _ _ cb => some cb
  | connect _ _ _ cb => some cb
  | sendSync _ _ cb => some cb
  | isReady _ cb => some cb
  | _ => none

section

variable (transports : List Transport) (ps ps' : Processors) (env env' : CommandEnv)

/-- The invocations that a command leads to: those of its own processing, and those of the
commands it posts, which a worker with drivers `ps'` processes. -/
def invocations (c : WakerCommand) : List (Callback × Reply) :=
  let effects := (processCommand transports ps c env).effects
  calls effects ++
    (posts effects).flatMap fun c' ↦ calls (processCommand transports ps' c' env').effects

/-- **The callback of a command is invoked exactly once**; if it is told of a connection,
the remote has been registered by then. -/
def AnsweredOnce (c : WakerCommand) : Prop :=
  ∃ cb reply, c.callback = some cb ∧ invocations transports ps ps' env env' c = [(cb, reply)] ∧
    ∀ endpoint addr, reply = .connect (.ok (endpoint, addr)) →
      ∃ c' ∈ posts (processCommand transports ps c env).effects, ∃ done,
        (processCommand transports ps' c' env').result = .ok done ∧
          ∃ t, ((done t).remote endpoint.resourceId).isSome

end

/-! ## What has to go well -/

/-- Every step that sets up a connection, up to the address of the socket. -/
structure SocketConnects (config : ConnectConfig) (peerAddr : SocketAddr) (env : ConnectEnv) :
    Prop where
  newSocket : env.newSocket peerAddr.domain = .ok ()
  setNonblocking : env.setNonblocking = .ok ()
  setNodelay : env.setNodelay = .ok ()
  bind : ∀ a, config.sourceAddressOpt = some a → env.bind a = .ok ()
  bindDevice : ∀ device, config.bindDeviceOpt = some device →
    '\x00' ∉ device.toList ∧ env.bindDevice device = .ok ()
  connect : env.connect peerAddr = .ok () ∨
    ∃ e, env.connect peerAddr = .error e ∧ e.rawOsError = some einprogress
  localAddr : ∃ a, env.localAddr = .ok a

/-- Every step that sets up a listening socket. -/
structure SocketListens (config : ListenConfig) (addr : SocketAddr) (env : ListenEnv) :
    Prop where
  newSocket : env.newSocket addr.domain = .ok ()
  setNonblocking : env.setNonblocking = .ok ()
  setNodelay : env.setNodelay = .ok ()
  setReuseAddress : env.setReuseAddress = .ok ()
  bindDevice : ∀ device, config.bindDeviceOpt = some device →
    '\x00' ∉ device.toList ∧ env.bindDevice device = .ok ()
  bind : env.bind addr = .ok ()
  listen : env.listen = .ok ()

/-- What a `Connect` needs of the socket, of the address and of the registration. -/
def ConnectFine (config : ConnectConfig) (raddr : RemoteAddr) (env : ConnectEnv)
    (register : RegisterEnv) : Transport → Prop
  | .tcp => ∃ peerAddr, raddr = .socket peerAddr ∧ SocketConnects config peerAddr env
  | .ssl => ∃ peerAddr uri domain, raddr = .socket peerAddr ∧
      SocketConnects config peerAddr env ∧
      env.parseUri (env.display peerAddr) = some uri ∧ uri.host = some domain ∧
      register.nativeCerts = .ok () ∧ register.serverName domain = true ∧
      register.clientConnection = true
  | .ws => ∃ peerAddr url, SocketConnects config peerAddr env ∧
      ((raddr = .socket peerAddr ∧
          env.parseUrl ("ws://" ++ env.display peerAddr ++ "/message-io-default") = some url) ∨
        ∃ path more, raddr = .str path ∧ env.parseUrl path = some url ∧
          env.socketAddrs url = .ok (peerAddr :: more))

/-- What turns a listening socket into a listener. -/
def ListenerSetUp (config : ListenConfig) (env : ListenEnv) (t : Transport) : Prop :=
  (∃ a, env.localAddr = .ok a) ∧
    (t = .ssl → ∃ c, env.serverConfig config.certPath config.priKeyPath = .ok c)

/-- What a `Listen` needs once the socket listens. -/
def ListenFine (config : ListenConfig) (addr : SocketAddr) (env : ListenEnv) (t : Transport) :
    Prop :=
  SocketListens config addr env → ListenerSetUp config env t ∧ env.pollAdd = .ok ()

/-- What a send needs to come back: a state in which it may be called, and answers with
which its loop ends. -/
def SendReturns (buffer : Bytes) (env : SendEnv) : (t : Transport) → t.RemoteResource → Prop
  | .tcp, _ => Tcp.maxAttempts ≤ env.writes.length ∨ (∃ call ∈ env.writes, call.isFatal) ∨
      (∃ call ∈ env.writes, call.isOk) ∧ buffer.length ≤ (env.writes.map WriteCall.count).sum
  | .ssl, r => (∃ sock, r.stream = .rustlsClientConnection sock ∨
        r.stream = .rustlsServerConnection sock) ∧
      ((∃ call ∈ env.writes, call.isFatal) ∨
        (∃ call ∈ env.writes, call.isOk) ∧ buffer.length ≤ (env.writes.map WriteCall.count).sum)
  | .ws, r => (∃ stream, r.state = .webSocket stream) ∧
      ∃ call ∈ env.wsSends, call ≠ .ioErr .wouldBlock

/-- What a `SendSync` needs: no listener under its id, and a remote that is ready sends. -/
def SendFine (endpoint : Endpoint) (buffer : Bytes) (env : SendEnv) (ps : Processors)
    (t : Transport) : Prop :=
  match endpoint.resourceId.resourceType with
  | .local => (ps t).listener endpoint.resourceId = none
  | .remote => ∀ r, (ps t).remote endpoint.resourceId = some r → r.properties.ready = true →
      SendReturns buffer env t r.resource

/-- What a command needs for its callback to be invoked. -/
def Answerable (transports : List Transport) (ps : Processors) (env env' : CommandEnv) :
    WakerCommand → Prop
  | .listen config localId addr _ => ∃ t ∈ transports, localId.adapterId = t.id ∧
      ListenFine config addr env.listen t
  | .connect config remoteId raddr _ => ∃ t ∈ transports, remoteId.adapterId = t.id ∧
      ConnectFine config raddr env.connect env'.register t ∧ env'.register.pollAdd = .ok ()
  | .sendSync endpoint buffer _ => ∃ t ∈ transports, endpoint.resourceId.adapterId = t.id ∧
      SendFine endpoint buffer env.send ps t
  | .isReady resourceId _ => ∃ t ∈ transports, resourceId.adapterId = t.id
  | _ => False

/-! ## Sockets -/

theorem seq_eq_ok {ε β : Type} {r : Except ε Unit} {f : Unit → Except ε β} {b : β} :
    (r >>= f) = .ok b ↔ r = .ok () ∧ f () = .ok b :=
  bind_eq_ok.trans ⟨fun ⟨_, h, h'⟩ ↦ ⟨h, h'⟩, fun ⟨h, h'⟩ ↦ ⟨(), h, h'⟩⟩

theorem bindSource_eq_ok {sourceAddressOpt : Option SocketAddr}
    {bind : SocketAddr → IoResult Unit} :
    bindSource sourceAddressOpt bind = .ok () ↔
      ∀ a, sourceAddressOpt = some a → bind a = .ok () := by
  cases sourceAddressOpt with
  | none => exact ⟨fun _ _ h ↦ absurd h nofun, fun _ ↦ rfl⟩
  | some a =>
      constructor
      · intro h _ hsome
        cases hsome
        exact h
      · intro h
        exact h a rfl

theorem bindToDevice_eq_ok {bindDeviceOpt : Option String} {bindDevice : String → IoResult Unit} :
    bindToDevice bindDeviceOpt bindDevice = .ok () ↔ ∀ device, bindDeviceOpt = some device →
      '\x00' ∉ device.toList ∧ bindDevice device = .ok () := by
  cases bindDeviceOpt with
  | none => exact ⟨fun _ _ h ↦ absurd h nofun, fun _ ↦ rfl⟩
  | some device =>
      have hcString : ∀ s, cString device = .ok s ↔ '\x00' ∉ device.toList ∧ s = device := by
        intro s
        rw [cString]
        by_cases h : '\x00' ∈ device.toList
        · rw [if_pos h]
          exact ⟨nofun, fun h' ↦ absurd h h'.1⟩
        · rw [if_neg h, Except.ok.injEq]
          exact ⟨fun h' ↦ ⟨h, h'.symm⟩, fun h' ↦ h'.2.symm⟩
      change (cString device >>= bindDevice) = .ok () ↔ _
      rw [bind_eq_ok]
      constructor
      · rintro ⟨s, hs, h⟩ _ hsome
        cases hsome
        obtain ⟨hnul, rfl⟩ := (hcString s).1 hs
        exact ⟨hnul, h⟩
      · intro h
        obtain ⟨hnul, h⟩ := h device rfl
        exact ⟨device, (hcString device).2 ⟨hnul, rfl⟩, h⟩

theorem startConnect_eq_ok {connect : IoResult Unit} :
    startConnect connect = .ok () ↔
      connect = .ok () ∨ ∃ e, connect = .error e ∧ e.rawOsError = some einprogress := by
  cases connect with
  | ok _ => exact ⟨fun _ ↦ .inl rfl, fun _ ↦ rfl⟩
  | error e =>
      change (if e.rawOsError ≠ some einprogress then Except.error e else .ok ()) = .ok () ↔ _
      by_cases he : e.rawOsError = some einprogress
      · exact ⟨fun _ ↦ .inr ⟨e, rfl, he⟩, fun _ ↦ if_neg (not_not_intro he)⟩
      · rw [if_pos he]
        refine ⟨nofun, ?_⟩
        rintro (h | ⟨e', h, he'⟩)
        · cases h
        · cases h
          exact absurd he' he

theorem remoteConnectWith_eq_ok {config : ConnectConfig} {peerAddr : SocketAddr}
    {domain : IoResult (Option String)} {env : ConnectEnv} {info : ConnectionInfo} :
    remoteConnectWith config peerAddr domain env = .ok info ↔
      SocketConnects config peerAddr env ∧ ∃ d a, domain = .ok d ∧ env.localAddr = .ok a ∧
        info = ⟨env.stream, a, peerAddr, config.keepaliveOpt, d⟩ := by
  simp only [remoteConnectWith, seq_eq_ok]
  simp only [bind_eq_ok, bindSource_eq_ok, bindToDevice_eq_ok, startConnect_eq_ok]
  constructor
  · rintro ⟨h₁, h₂, h₃, h₄, h₅, h₆, a, ha, d, hd, hinfo⟩
    cases hinfo
    exact ⟨⟨h₁, h₂, h₃, h₄, h₅, h₆, a, ha⟩, d, a, hd, ha, rfl⟩
  · rintro ⟨⟨h₁, h₂, h₃, h₄, h₅, h₆, -⟩, d, a, hd, ha, rfl⟩
    exact ⟨h₁, h₂, h₃, h₄, h₅, h₆, a, ha, d, hd, rfl⟩

theorem listeningSocket_eq_ok {config : ListenConfig} {addr : SocketAddr} {env : ListenEnv}
    {l : TcpListener} :
    listeningSocket config addr env = .ok l ↔ SocketListens config addr env ∧ l = env.listener := by
  simp only [listeningSocket, seq_eq_ok, bindToDevice_eq_ok]
  constructor
  · rintro ⟨h₁, h₂, h₃, h₄, h₅, h₆, h₇, h⟩
    cases h
    exact ⟨⟨h₁, h₂, h₃, h₄, h₅, h₆, h₇⟩, rfl⟩
  · rintro ⟨⟨h₁, h₂, h₃, h₄, h₅, h₆, h₇⟩, rfl⟩
    exact ⟨h₁, h₂, h₃, h₄, h₅, h₆, h₇, rfl⟩

/-! ## Connections -/

theorem socketAddr_eq_ok {raddr : RemoteAddr} {addr : SocketAddr} :
    raddr.socketAddr = .ok addr ↔ raddr = .socket addr := by
  cases raddr with
  | socket a =>
      exact ⟨fun h ↦ congrArg _ (Except.ok.inj h), fun h ↦ congrArg _ (RemoteAddr.socket.inj h)⟩
  | str _ => exact ⟨nofun, nofun⟩

/-- The payload that a connection travels with leads to a resource in the worker. -/
def ConnectHops (config : ConnectConfig) (raddr : RemoteAddr) (env : ConnectEnv)
    (register : RegisterEnv) (t : Transport) : Prop :=
  ∃ info payload r,
    Adapter.connect t.RemoteResource t.LocalResource config raddr env = .ok (.ok (info, payload)) ∧
      Adapter.connectedResource t.LocalResource info.stream payload register =
        .ok (r : t.RemoteResource)

section

variable {config : ConnectConfig} {raddr : RemoteAddr} {env : ConnectEnv} {register : RegisterEnv}

theorem connectHops_tcp :
    ConnectHops config raddr env register .tcp ↔ ConnectFine config raddr env register .tcp := by
  constructor
  · rintro ⟨info, payload, r, hconnect, -⟩
    obtain ⟨peerAddr, hpeer, h⟩ := bind_eq_ok.1 hconnect
    obtain ⟨info', hinfo, -⟩ := map_eq_ok.1 (Except.ok.inj h)
    exact ⟨peerAddr, socketAddr_eq_ok.1 hpeer, (remoteConnectWith_eq_ok.1 hinfo).1⟩
  · rintro ⟨peerAddr, rfl, hsocket⟩
    obtain ⟨a, ha⟩ := hsocket.localAddr
    refine ⟨⟨env.stream, a, peerAddr, config.keepaliveOpt, none⟩, .tcpConnect config.keepaliveOpt,
      _, bind_eq_ok.2 ⟨peerAddr, rfl, congrArg Except.ok ?_⟩, rfl⟩
    exact map_eq_ok.2 ⟨_, remoteConnectWith_eq_ok.2 ⟨hsocket, none, a, rfl, ha, rfl⟩, rfl⟩

theorem target_eq_ok {peerAddr : SocketAddr} {url : Url} :
    Ws.target env raddr = .ok (peerAddr, url) ↔
      (raddr = .socket peerAddr ∧
          env.parseUrl ("ws://" ++ env.display peerAddr ++ "/message-io-default") = some url) ∨
        ∃ path more, raddr = .str path ∧ env.parseUrl path = some url ∧
          env.socketAddrs url = .ok (peerAddr :: more) := by
  cases raddr with
  | socket addr =>
      rw [Ws.target, bind_eq_ok]
      constructor
      · rintro ⟨url', hurl, h⟩
        cases h
        exact .inl ⟨rfl, unwrapOpt_eq_ok.1 hurl⟩
      · rintro (⟨h, hurl⟩ | ⟨path, more, h, -⟩)
        · cases h
          exact ⟨url, unwrapOpt_eq_ok.2 hurl, rfl⟩
        · cases h
  | str path =>
      simp only [Ws.target, bind_eq_ok, unwrap_eq_ok, unwrapOpt_eq_ok]
      constructor
      · rintro ⟨url', hurl, addrs, haddrs, h⟩
        cases addrs with
        | nil => cases h
        | cons addr more =>
            cases h
            exact .inr ⟨path, more, rfl, hurl, haddrs⟩
      · rintro (⟨h, -⟩ | ⟨path', more, h, hurl, haddrs⟩)
        · cases h
        · cases h
          exact ⟨url, hurl, _, haddrs, rfl⟩

theorem connectHops_ws :
    ConnectHops config raddr env register .ws ↔ ConnectFine config raddr env register .ws := by
  constructor
  · rintro ⟨info, payload, r, hconnect, -⟩
    obtain ⟨⟨peerAddr, url⟩, htgt, h⟩ := bind_eq_ok.1 hconnect
    obtain ⟨info', hinfo, -⟩ := map_eq_ok.1 (Except.ok.inj h)
    exact ⟨peerAddr, url, (remoteConnectWith_eq_ok.1 hinfo).1, target_eq_ok.1 htgt⟩
  · rintro ⟨peerAddr, url, hsocket, htgt⟩
    obtain ⟨a, ha⟩ := hsocket.localAddr
    refine ⟨⟨env.stream, a, peerAddr, config.keepaliveOpt, none⟩,
      .wsConnect url config.keepaliveOpt, _,
      bind_eq_ok.2 ⟨(peerAddr, url), target_eq_ok.2 htgt, congrArg Except.ok ?_⟩, rfl⟩
    exact map_eq_ok.2 ⟨_, remoteConnectWith_eq_ok.2 ⟨hsocket, none, a, rfl, ha, rfl⟩, rfl⟩

theorem wrapStream_eq_ok {sock : TcpStream} {domain : String} {s : Ssl.SslStream} :
    Ssl.wrapStream sock domain register = .ok (some s) ↔
      register.nativeCerts = .ok () ∧ (register.serverName domain = true ∧
        register.clientConnection = true) ∧ s = .rustlsClientConnection sock := by
  rw [Ssl.wrapStream, seq_eq_ok, unwrap_eq_ok]
  refine and_congr_right fun _ ↦ ?_
  rw [← Bool.and_eq_true]
  cases register.serverName domain && register.clientConnection with
  | true =>
      exact ⟨fun h ↦ ⟨rfl, (Option.some.inj (Except.ok.inj h)).symm⟩, fun h ↦ by rw [h.2]; rfl⟩
  | false => exact ⟨nofun, fun h ↦ absurd h.1 nofun⟩

theorem sslResource_eq_ok {stream : TcpStream} {keepaliveOpt : Option TcpKeepalive}
    {domainOpt : Option String} :
    (∃ r, Adapter.connectedResource Ssl.LocalResource stream (.sslConnect keepaliveOpt domainOpt)
        register = .ok (r : Ssl.RemoteResource)) ↔
      ∃ domain, domainOpt = some domain ∧ register.nativeCerts = .ok () ∧
        register.serverName domain = true ∧ register.clientConnection = true := by
  constructor
  · rintro ⟨r, hr⟩
    obtain ⟨domain, hdomain, h⟩ := bind_eq_ok.1 hr
    obtain ⟨wrapped, hwrap, h⟩ := bind_eq_ok.1 h
    cases wrapped with
    | none => cases h
    | some s =>
        obtain ⟨hcerts, ⟨hname, hclient⟩, -⟩ := wrapStream_eq_ok.1 hwrap
        exact ⟨domain, unwrapOpt_eq_ok.1 hdomain, hcerts, hname, hclient⟩
  · rintro ⟨domain, rfl, hcerts, hname, hclient⟩
    refine ⟨⟨.rustlsClientConnection stream, keepaliveOpt⟩, bind_eq_ok.2 ⟨domain, rfl, ?_⟩⟩
    exact bind_eq_ok.2 ⟨_, wrapStream_eq_ok.2 ⟨hcerts, ⟨hname, hclient⟩, rfl⟩, rfl⟩

theorem connectHops_ssl :
    ConnectHops config raddr env register .ssl ↔ ConnectFine config raddr env register .ssl := by
  constructor
  · rintro ⟨info, payload, r, hconnect, hresource⟩
    cases raddr with
    | str s => cases hconnect
    | socket peerAddr =>
        obtain ⟨uri, huri, h⟩ := bind_eq_ok.1 hconnect
        obtain ⟨info', hinfo, hpayload⟩ := map_eq_ok.1 (Except.ok.inj h)
        obtain ⟨hsocket, d, a, hd, -, rfl⟩ := remoteConnectWith_eq_ok.1 hinfo
        cases hpayload
        obtain ⟨domain, hdomain, hcerts, hname, hclient⟩ := sslResource_eq_ok.1 ⟨r, hresource⟩
        refine ⟨peerAddr, uri, domain, rfl, hsocket, unwrapOpt_eq_ok.1 huri, ?_, hcerts, hname,
          hclient⟩
        cases hhost : uri.host with
        | none =>
            rw [hhost] at hd
            cases hd
        | some d' =>
            rw [hhost] at hd
            cases hd
            exact hdomain
  · rintro ⟨peerAddr, uri, domain, rfl, hsocket, huri, hhost, hcerts, hname, hclient⟩
    obtain ⟨a, ha⟩ := hsocket.localAddr
    obtain ⟨r, hr⟩ := sslResource_eq_ok.2 ⟨domain, rfl, hcerts, hname, hclient⟩
    refine ⟨⟨env.stream, a, peerAddr, config.keepaliveOpt, some domain⟩,
      .sslConnect config.keepaliveOpt (some domain), r,
      bind_eq_ok.2 ⟨uri, unwrapOpt_eq_ok.2 huri, congrArg Except.ok ?_⟩, hr⟩
    refine map_eq_ok.2 ⟨_, remoteConnectWith_eq_ok.2 ⟨hsocket, some domain, a, ?_, ha, rfl⟩, rfl⟩
    rw [hhost]

theorem connectHops (t : Transport) :
    ConnectHops config raddr env register t ↔ ConnectFine config raddr env register t := by
  cases t with
  | tcp => exact connectHops_tcp
  | ssl => exact connectHops_ssl
  | ws => exact connectHops_ws

end

/-! ## Listeners -/

section

variable {config : ListenConfig} {addr : SocketAddr} {env : ListenEnv}

theorem not_socketListens_iff :
    ¬ SocketListens config addr env ↔ ∃ err, listeningSocket config addr env = .error err := by
  constructor
  · intro h
    cases hl : listeningSocket config addr env with
    | ok l => exact absurd (listeningSocket_eq_ok.1 hl).1 h
    | error err => exact ⟨err, rfl⟩
  · rintro ⟨err, herr⟩ h
    rw [listeningSocket_eq_ok.2 ⟨h, rfl⟩] at herr
    cases herr

/-- A socket that does not listen is told to the callback. -/
theorem listenWith_error (t : Transport) (h : ¬ SocketListens config addr env) :
    ∃ err, Local.listenWith (L := t.LocalResource) config addr env = .ok (.error err) := by
  obtain ⟨err, herr⟩ := not_socketListens_iff.1 h
  refine ⟨err, ?_⟩
  cases t with
  | tcp =>
      change Tcp.listenWith config addr env = _
      rw [Tcp.listenWith, herr]
      rfl
  | ssl =>
      change Ssl.listenWith config addr env = _
      rw [Ssl.listenWith, herr]
      rfl
  | ws =>
      change Ws.listenWith config addr env = _
      rw [Ws.listenWith, herr]
      rfl

theorem listenWith_ok {t : Transport} (h : SocketListens config addr env)
    (hsetUp : ListenerSetUp config env t) :
    ∃ l a, Local.listenWith config addr env = .ok (.ok ((l : t.LocalResource), a)) := by
  have hl := listeningSocket_eq_ok.2 ⟨h, rfl⟩
  obtain ⟨⟨a, ha⟩, hcert⟩ := hsetUp
  cases t with
  | tcp =>
      refine ⟨⟨env.listener, config.keepaliveOpt⟩, a, ?_⟩
      change Tcp.listenWith config addr env = _
      rw [Tcp.listenWith, hl, ha]
      rfl
  | ssl =>
      obtain ⟨c, hc⟩ := hcert rfl
      refine ⟨⟨env.listener, config.keepaliveOpt, c⟩, a, ?_⟩
      change Ssl.listenWith config addr env = _
      rw [Ssl.listenWith, hl, ha, hc]
      rfl
  | ws =>
      refine ⟨⟨env.listener, config.keepaliveOpt⟩, a, ?_⟩
      change Ws.listenWith config addr env = _
      rw [Ws.listenWith, hl, ha]
      rfl

/-- A listening socket that does not become a listener is a panic. -/
theorem listenWith_halt {t : Transport} (h : SocketListens config addr env)
    (hsetUp : ¬ ListenerSetUp config env t) :
    ∃ x, Local.listenWith (L := t.LocalResource) config addr env = .error x := by
  have hl := listeningSocket_eq_ok.2 ⟨h, rfl⟩
  cases ha : env.localAddr with
  | error err =>
      refine ⟨.panic .unwrap, ?_⟩
      cases t with
      | tcp =>
          change Tcp.listenWith config addr env = _
          rw [Tcp.listenWith, hl, ha]
          rfl
      | ssl =>
          change Ssl.listenWith config addr env = _
          rw [Ssl.listenWith, hl, ha]
          rfl
      | ws =>
          change Ws.listenWith config addr env = _
          rw [Ws.listenWith, hl, ha]
          rfl
  | ok a =>
      rw [ListenerSetUp, and_iff_right ⟨a, ha⟩, Classical.not_imp] at hsetUp
      obtain ⟨rfl, hcert⟩ := hsetUp
      cases hc : env.serverConfig config.certPath config.priKeyPath with
      | ok c => exact absurd ⟨c, hc⟩ hcert
      | error err =>
          refine ⟨.panic .unwrap, ?_⟩
          change Ssl.listenWith config addr env = _
          rw [Ssl.listenWith, hl, ha, hc]
          rfl

end

/-! ## Sends -/

/-- A flush that is repeated comes back at the first answer that is not "would block". -/
theorem wsSendLoop_returns (calls : List WsSendCall) :
    (∃ status, (Ws.RemoteResource.sendLoop calls).result = .ok status) ↔
      ∃ call ∈ calls, call ≠ .ioErr .wouldBlock := by
  induction calls with
  | nil =>
      constructor
      · rintro ⟨_, h⟩
        cases h
      · rintro ⟨_, h, -⟩
        cases h
  | cons call calls ih =>
      by_cases hcall : call = .ioErr .wouldBlock
      · subst hcall
        change (∃ status, (Ws.RemoteResource.sendLoop calls).result = .ok status) ↔ _
        rw [ih, List.exists_mem_cons_iff]
        exact (or_iff_right fun h ↦ h rfl).symm
      · refine ⟨fun _ ↦ ⟨call, List.mem_cons_self, hcall⟩, fun _ ↦ ?_⟩
        cases call with
        | ok => exact ⟨_, rfl⟩
        | capacity => exact ⟨_, rfl⟩
        | err => exact ⟨_, rfl⟩
        | ioErr kind =>
            cases kind with
            | wouldBlock => exact absurd rfl hcall
            | _ => exact ⟨_, rfl⟩

theorem sendAll_returns (sock : TcpStream) (data : Bytes) (writes : List WriteCall) :
    (∃ status, (Ssl.RemoteResource.sendAll sock data writes).result = .ok status) ↔
      (∃ call ∈ writes, call.isFatal) ∨
        (∃ call ∈ writes, call.isOk) ∧ data.length ≤ (writes.map WriteCall.count).sum := by
  rw [Ssl.RemoteResource.sendAll, sendLoop_returns _ (Nat.zero_le _), Nat.zero_add]
  exact or_iff_right (Nat.not_succ_le_self _)

/-- Whether the `send` of a resource comes back. -/
theorem send_returns (t : Transport) (r : t.RemoteResource) (data : Bytes) (env : SendEnv) :
    (∃ status, (Remote.send r data env).result = .ok status) ↔ SendReturns data env t r := by
  cases t with
  | tcp =>
      change (∃ status,
        (sendLoop r.stream data Tcp.maxAttempts 0 env.writes).result = .ok status) ↔ _
      rw [sendLoop_returns _ (Nat.zero_le _), Nat.zero_add]
      rfl
  | ssl =>
      obtain ⟨stream, keepaliveOpt⟩ := r
      cases stream with
      | rustlsStreamAcceptor raw acceptor serverConfig =>
          constructor
          · rintro ⟨_, h⟩
            cases h
          · rintro ⟨⟨_, h | h⟩, -⟩ <;> cases h
      | rustlsClientConnection sock =>
          change (∃ status,
            (Ssl.RemoteResource.sendAll sock data env.writes).result = .ok status) ↔ _
          rw [sendAll_returns]
          exact (and_iff_right ⟨sock, .inl rfl⟩).symm
      | rustlsServerConnection sock =>
          change (∃ status,
            (Ssl.RemoteResource.sendAll sock data env.writes).result = .ok status) ↔ _
          rw [sendAll_returns]
          exact (and_iff_right ⟨sock, .inr rfl⟩).symm
  | ws =>
      obtain ⟨state, keepaliveOpt⟩ := r
      cases state with
      | webSocket stream =>
          change (∃ status, (Ws.RemoteResource.sendLoop env.wsSends).result = .ok status) ↔ _
          rw [wsSendLoop_returns]
          exact (and_iff_right ⟨stream, rfl⟩).symm
      | handshake pending =>
          constructor
          · rintro ⟨_, h⟩
            cases h
          · rintro ⟨⟨_, h⟩, -⟩
            cases h
      | error stream =>
          constructor
          · rintro ⟨_, h⟩
            cases h
          · rintro ⟨⟨_, h⟩, -⟩
            cases h

/-- No listener sends. -/
theorem sendTo_eq (t : Transport) (l : t.LocalResource) (addr : SocketAddr) (data : Bytes) :
    Local.sendTo l addr data = .error (.panic .sendTo) := by
  cases t <;> rfl

/-- A result that is thrown away does not change whether there is one. -/
theorem result_bind_pure {τ η α β : Type} {m : Proc τ η α} {f : α → β} :
    (m >>= fun a ↦ pure (f a)).effects = m.effects ∧
      ((∃ b, (m >>= fun a ↦ pure (f a)).result = .ok b) ↔ ∃ a, m.result = .ok a) := by
  cases h : m.result with
  | error x =>
      refine ⟨Proc.effects_bind_error h _, ?_⟩
      rw [Proc.result_bind_error h]
      exact ⟨fun ⟨_, h⟩ ↦ absurd h nofun, fun ⟨_, h⟩ ↦ absurd h nofun⟩
  | ok a =>
      refine ⟨(Proc.effects_bind_ok h _).trans (List.append_nil _), ?_⟩
      rw [Proc.result_bind_ok h]
      exact ⟨fun _ ↦ ⟨a, rfl⟩, fun _ ↦ ⟨f a, rfl⟩⟩

section

variable {t : Transport} {ps : Processors} {endpoint : Endpoint} {data : Bytes} {env : SendEnv}

/-- Whether a send of a driver comes back. -/
theorem processSend_returns :
    (∃ u, ((ps t).processSend endpoint data env).result = .ok u) ↔
      SendFine endpoint data env ps t := by
  rw [Driver.processSend, SendFine]
  cases endpoint.resourceId.resourceType with
  | remote =>
      cases hr : (ps t).remote endpoint.resourceId with
      | none => exact ⟨fun _ r h ↦ absurd h nofun, fun _ ↦ ⟨(), rfl⟩⟩
      | some r =>
          have hsome : (∀ r', some r = some r' → r'.properties.ready = true →
              SendReturns data env t r'.resource) ↔
                (r.properties.ready = true → SendReturns data env t r.resource) :=
            ⟨fun h ↦ h r rfl, fun h r' hr' ↦ by cases hr'; exact h⟩
          simp only [hsome]
          by_cases hready : r.properties.ready = true
          · rw [if_pos hready, ← send_returns]
            exact result_bind_pure.2.trans ⟨fun h _ ↦ h, fun h ↦ h hready⟩
          · rw [if_neg hready]
            exact ⟨fun _ h ↦ absurd h hready, fun _ ↦ ⟨(), rfl⟩⟩
  | «local» =>
      cases hl : (ps t).listener endpoint.resourceId with
      | none => exact ⟨fun _ ↦ rfl, fun _ ↦ ⟨(), rfl⟩⟩
      | some l =>
          simp only [sendTo_eq]
          exact ⟨fun ⟨_, h⟩ ↦ absurd h nofun, fun h ↦ absurd h nofun⟩

/-- All that a send does to the world is to write. -/
theorem processSend_effects :
    ∃ ws : List Written, ((ps t).processSend endpoint data env).effects = ws.map .write := by
  rw [Driver.processSend]
  cases endpoint.resourceId.resourceType with
  | remote =>
      cases hr : (ps t).remote endpoint.resourceId with
      | none => exact ⟨[], rfl⟩
      | some r =>
          by_cases hready : r.properties.ready = true
          · simp only [hready, if_true]
            exact ⟨_, result_bind_pure.1⟩
          · simp only [hready, if_false, Bool.false_eq_true]
            exact ⟨[], rfl⟩
  | «local» =>
      cases hl : (ps t).listener endpoint.resourceId with
      | none => exact ⟨[], rfl⟩
      | some l =>
          simp only [sendTo_eq]
          exact ⟨[], rfl⟩

end

theorem calls_map_write (ws : List Written) : calls (ws.map .write) = [] := by
  rw [calls, List.filterMap_map]
  exact List.filterMap_eq_nil_iff.2 fun _ _ ↦ rfl

theorem posts_map_write (ws : List Written) : posts (ws.map .write) = [] := by
  rw [posts, List.filterMap_map]
  exact List.filterMap_eq_nil_iff.2 fun _ _ ↦ rfl

/-! ## One invocation -/

section

variable {transports : List Transport} {ps ps' : Processors} {env env' : CommandEnv}

theorem exists_transport_iff {id : ResourceId} {t : Transport} {P : Transport → Prop}
    (hget : getProcessor transports id = .ok t) :
    (∃ t' ∈ transports, id.adapterId = t'.id ∧ P t') ↔ P t := by
  obtain ⟨hmem, hid⟩ := getProcessor_eq_ok.1 hget
  constructor
  · rintro ⟨t', -, hid', h⟩
    rwa [Transport.id_injective (hid.symm.trans hid')]
  · intro h
    exact ⟨t, hmem, hid, h⟩

theorem not_exists_transport {id : ResourceId} {x : Halt} {P : Transport → Prop}
    (hget : getProcessor transports id = .error x) :
    ¬ ∃ t ∈ transports, id.adapterId = t.id ∧ P t := by
  rintro ⟨t, hmem, hid, -⟩
  rw [getProcessor_eq_ok.2 ⟨hmem, hid⟩] at hget
  cases hget

/-- The invocations of a command that posts nothing are its own. -/
theorem invocations_eq {c : WakerCommand} {es : List Effect}
    (h : (processCommand transports ps c env).effects = es) (hposts : posts es = []) :
    invocations transports ps ps' env env' c = calls es := by
  rw [invocations, h]
  simp only [hposts]
  exact List.append_nil _

theorem not_answeredOnce {c : WakerCommand}
    (h : invocations transports ps ps' env env' c = []) :
    ¬ AnsweredOnce transports ps ps' env env' c := by
  rintro ⟨cb, reply, -, h', -⟩
  rw [h] at h'
  cases h'

/-- A command whose processor is not there is not answered. -/
theorem not_answeredOnce_of_error {c : WakerCommand}
    (h : (processCommand transports ps c env).effects = []) :
    ¬ AnsweredOnce transports ps ps' env env' c :=
  not_answeredOnce (invocations_eq h rfl)

/-- A reply that tells of no connection needs no registration. -/
theorem answeredOnce_of_calls {c : WakerCommand} {cb : Callback} (reply : Reply)
    (hcb : c.callback = some cb) (hreply : ∀ done, reply ≠ .connect (.ok done))
    (h : invocations transports ps ps' env env' c = [(cb, reply)]) :
    AnsweredOnce transports ps ps' env env' c :=
  ⟨cb, reply, hcb, h, fun _ _ h' ↦ absurd h' (hreply _)⟩

theorem answeredOnce_isReady (id : ResourceId) (cb : Callback) :
    AnsweredOnce transports ps ps' env env' (.isReady id cb) ↔
      ∃ t ∈ transports, id.adapterId = t.id := by
  cases hget : getProcessor transports id with
  | error x =>
      have heffects : (processCommand transports ps (.isReady id cb) env).effects = [] := by
        rw [processCommand, hget]
        rfl
      refine iff_of_false (not_answeredOnce_of_error heffects) ?_
      rintro ⟨t, hmem, hid⟩
      exact not_exists_transport (P := fun _ ↦ True) hget ⟨t, hmem, hid, trivial⟩
  | ok t =>
      have heffects : (processCommand transports ps (.isReady id cb) env).effects =
          [.call cb (.isReady ((ps t).processIsReady id))] := by
        rw [processCommand, hget]
        rfl
      refine iff_of_true (answeredOnce_of_calls (.isReady _) rfl nofun
        (invocations_eq heffects rfl)) ?_
      obtain ⟨hmem, hid⟩ := getProcessor_eq_ok.1 hget
      exact ⟨t, hmem, hid⟩

theorem answeredOnce_sendSync (endpoint : Endpoint) (buffer : Bytes) (cb : Callback) :
    AnsweredOnce transports ps ps' env env' (.sendSync endpoint buffer cb) ↔
      ∃ t ∈ transports, endpoint.resourceId.adapterId = t.id ∧
        SendFine endpoint buffer env.send ps t := by
  cases hget : getProcessor transports endpoint.resourceId with
  | error x =>
      refine iff_of_false (not_answeredOnce_of_error ?_) (not_exists_transport hget)
      rw [processCommand, hget]
      rfl
  | ok t =>
      rw [exists_transport_iff hget, ← processSend_returns]
      obtain ⟨ws, hws⟩ : ∃ ws : List Written,
          ((ps t).processSend endpoint buffer env.send).effects = ws.map .write :=
        processSend_effects
      cases hres : ((ps t).processSend endpoint buffer env.send).result with
      | error x =>
          have heffects :
              (processCommand transports ps (.sendSync endpoint buffer cb) env).effects =
              ws.map .write := by
            rw [processCommand, hget, Proc.ofExcept_ok_bind, Proc.effects_bind_error hres, hws]
          refine iff_of_false (not_answeredOnce ?_) (fun ⟨_, h⟩ ↦ absurd h nofun)
          rw [invocations_eq heffects (posts_map_write ws), calls_map_write]
      | ok u =>
          have heffects :
              (processCommand transports ps (.sendSync endpoint buffer cb) env).effects =
              ws.map .write ++ [.call cb .sent] := by
            rw [processCommand, hget, Proc.ofExcept_ok_bind, Proc.effects_bind_ok hres, hws]
            rfl
          refine iff_of_true (answeredOnce_of_calls .sent rfl nofun ?_) ⟨u, rfl⟩
          rw [invocations_eq heffects]
          · rw [calls, List.filterMap_append, ← calls, calls_map_write]
            rfl
          · rw [posts, List.filterMap_append, ← posts, posts_map_write]
            rfl

theorem answeredOnce_listen (config : ListenConfig) (localId : ResourceId) (addr : SocketAddr)
    (cb : Callback) :
    AnsweredOnce transports ps ps' env env' (.listen config localId addr cb) ↔
      ∃ t ∈ transports, localId.adapterId = t.id ∧ ListenFine config addr env.listen t := by
  cases hget : getProcessor transports localId with
  | error x =>
      refine iff_of_false (not_answeredOnce_of_error ?_) (not_exists_transport hget)
      rw [processCommand, hget]
      rfl
  | ok t =>
      rw [exists_transport_iff hget]
      have heffects : (processCommand transports ps (.listen config localId addr cb) env).effects =
          ((ps t).processListen config localId addr cb env.listen).effects := by
        rw [processCommand, hget, Proc.ofExcept_ok_bind]
        exact result_bind_pure.1
      by_cases hsocket : SocketListens config addr env.listen
      · by_cases hsetUp : ListenerSetUp config env.listen t
        · obtain ⟨l, a, hl⟩ := listenWith_ok hsocket hsetUp
          rw [Driver.processListen, hl, Proc.ofExcept_ok_bind] at heffects
          cases hadd : env.listen.pollAdd with
          | error err =>
              simp only [Driver.registerLocal, hadd] at heffects
              refine iff_of_false (not_answeredOnce_of_error heffects) fun h ↦ ?_
              rw [(h hsocket).2] at hadd
              cases hadd
          | ok u =>
              simp only [Driver.registerLocal, hadd] at heffects
              exact iff_of_true (answeredOnce_of_calls (.listen (.ok (localId, a))) rfl nofun
                (invocations_eq heffects rfl)) fun _ ↦ ⟨hsetUp, hadd⟩
        · obtain ⟨x, hx⟩ := listenWith_halt hsocket hsetUp
          rw [Driver.processListen, hx] at heffects
          exact iff_of_false (not_answeredOnce_of_error heffects) fun h ↦ hsetUp (h hsocket).1
      · obtain ⟨err, herr⟩ := listenWith_error t hsocket
        rw [Driver.processListen, herr, Proc.ofExcept_ok_bind] at heffects
        exact iff_of_true (answeredOnce_of_calls (.listen (.error err)) rfl nofun
          (invocations_eq heffects rfl)) fun h ↦ absurd h hsocket

/-! ## A connection and its registration -/

/-- The command that registers a connection. -/
def registration (remoteId : ResourceId) (cb : Callback) (info : ConnectionInfo)
    (payload : Payload) : WakerCommand :=
  .connectRegisterRemote info.localAddr (remoteId, info.peerAddr) info.stream payload cb

section

variable {config : ConnectConfig} {remoteId : ResourceId} {raddr : RemoteAddr} {cb : Callback}
  {t : Transport} {info : ConnectionInfo} {payload : Payload}

/-- The resource of a connection, and the poll that takes it. -/
def Registers (info : ConnectionInfo) (payload : Payload) (register : RegisterEnv)
    (t : Transport) : Prop :=
  (∃ r : t.RemoteResource,
    Adapter.connectedResource t.LocalResource info.stream payload register = .ok r) ∧
  register.pollAdd = .ok ()

/-- A `Connect` leaves the worker of its id to register the connection, if there is one. -/
theorem effects_connect (hget : getProcessor transports remoteId = .ok t) :
    (processCommand transports ps (.connect config remoteId raddr cb) env).effects =
      match Adapter.connect t.RemoteResource t.LocalResource config raddr env.connect with
      | .ok (.ok (info, payload)) => [.post remoteId (registration remoteId cb info payload)]
      | _ => [] := by
  rw [processCommand, hget, Proc.ofExcept_ok_bind, result_bind_pure.1, Driver.processConnect]
  cases Adapter.connect t.RemoteResource t.LocalResource config raddr env.connect with
  | error x => rfl
  | ok ret =>
      cases ret with
      | error err => rfl
      | ok done => rfl

/-- A registration that goes through: the remote is there and the callback is invoked. -/
theorem processCommand_registration (ps : Processors) (cb : Callback)
    (hget : getProcessor transports remoteId = .ok t)
    (h : Registers info payload env.register t) :
    (processCommand transports ps (registration remoteId cb info payload) env).effects =
        [.call cb (.connect (.ok (⟨remoteId, info.peerAddr⟩, info.localAddr)))] ∧
      ∃ done, (processCommand transports ps (registration remoteId cb info payload) env).result =
          .ok done ∧ ((done t).remote remoteId).isSome := by
  obtain ⟨⟨r, hr⟩, hadd⟩ := h
  rw [registration, processCommand, hget, Proc.ofExcept_ok_bind,
    Driver.processConnectRegisterRemote, hr, Proc.ofExcept_ok_bind, Driver.registerRemote, hadd]
  refine ⟨rfl, _, rfl, ?_⟩
  rw [Function.update_self]
  exact congrArg Option.isSome (ResourceRegistry.get_register_self _ _ _ _)

/-- A registration that does not go through invokes nothing. -/
theorem effects_registration_halt (hget : getProcessor transports remoteId = .ok t)
    (h : ¬ Registers info payload env.register t) :
    (processCommand transports ps (registration remoteId cb info payload) env).effects = [] := by
  rw [registration, processCommand, hget, Proc.ofExcept_ok_bind, result_bind_pure.1,
    Driver.processConnectRegisterRemote]
  cases hr : (Adapter.connectedResource t.LocalResource info.stream payload env.register :
      Except Halt t.RemoteResource) with
  | error x => rfl
  | ok r =>
      cases hadd : env.register.pollAdd with
      | ok u => exact absurd ⟨⟨r, hr⟩, hadd⟩ h
      | error err =>
          rw [Proc.ofExcept_ok_bind, Driver.registerRemote]
          rfl

/-- A connection that the master has made is answered if the worker registers it. -/
theorem answeredOnce_of_connected (hget : getProcessor transports remoteId = .ok t)
    (hconnect : Adapter.connect t.RemoteResource t.LocalResource config raddr env.connect =
      .ok (.ok (info, payload))) :
    AnsweredOnce transports ps ps' env env' (.connect config remoteId raddr cb) ↔
      Registers info payload env'.register t := by
  have heffects : (processCommand transports ps (.connect config remoteId raddr cb) env).effects =
      [.post remoteId (registration remoteId cb info payload)] := by
    rw [effects_connect hget, hconnect]
  have hinvocations : invocations transports ps ps' env env' (.connect config remoteId raddr cb) =
      calls (processCommand transports ps'
        (registration remoteId cb info payload) env').effects := by
    rw [invocations, heffects]
    exact List.append_nil _
  by_cases h : Registers info payload env'.register t
  · obtain ⟨hcall, done, hdone, hsome⟩ := processCommand_registration ps' cb hget h
    refine iff_of_true ⟨cb, _, rfl, hinvocations.trans (congrArg calls hcall), ?_⟩ h
    intro endpoint addr hreply
    cases hreply
    refine ⟨registration remoteId cb info payload, ?_, done, hdone, t, hsome⟩
    rw [heffects]
    exact List.mem_cons_self
  · refine iff_of_false (not_answeredOnce ?_) h
    rw [hinvocations, effects_registration_halt hget h]
    rfl

theorem answeredOnce_connect :
    AnsweredOnce transports ps ps' env env' (.connect config remoteId raddr cb) ↔
      ∃ t ∈ transports, remoteId.adapterId = t.id ∧
        ConnectFine config raddr env.connect env'.register t ∧ env'.register.pollAdd = .ok () := by
  cases hget : getProcessor transports remoteId with
  | error x =>
      refine iff_of_false (not_answeredOnce_of_error ?_) (not_exists_transport hget)
      rw [processCommand, hget]
      rfl
  | ok t =>
      rw [exists_transport_iff hget, ← connectHops]
      by_cases h : ∃ info payload,
          Adapter.connect t.RemoteResource t.LocalResource config raddr env.connect =
            .ok (.ok (info, payload))
      · obtain ⟨info, payload, hconnect⟩ := h
        rw [answeredOnce_of_connected hget hconnect]
        constructor
        · rintro ⟨⟨r, hr⟩, hadd⟩
          exact ⟨⟨info, payload, r, hconnect, hr⟩, hadd⟩
        · rintro ⟨⟨info', payload', r, hconnect', hr⟩, hadd⟩
          rw [hconnect] at hconnect'
          cases hconnect'
          exact ⟨⟨r, hr⟩, hadd⟩
      · refine iff_of_false (not_answeredOnce_of_error ?_) ?_
        · rw [effects_connect hget]
          split
          · rename_i info payload hconnect
            exact absurd ⟨info, payload, hconnect⟩ h
          · rfl
        · rintro ⟨⟨info, payload, r, hconnect, -⟩, -⟩
          exact h ⟨info, payload, hconnect⟩

end

/-- **A callback is invoked exactly once if what its command needs goes well, and not at all
or not once otherwise.** -/
theorem answered_once_iff (transports : List Transport) (ps ps' : Processors)
    (env env' : CommandEnv) (c : WakerCommand) :
    AnsweredOnce transports ps ps' env env' c ↔ Answerable transports ps env env' c := by
  have hnone : c.callback = none → ¬ AnsweredOnce transports ps ps' env env' c := by
    rintro hc ⟨cb, -, hcb, -⟩
    rw [hc] at hcb
    cases hcb
  cases c with
  | listen config localId addr cb => exact answeredOnce_listen config localId addr cb
  | connect config remoteId raddr cb => exact answeredOnce_connect
  | sendSync endpoint buffer cb => exact answeredOnce_sendSync endpoint buffer cb
  | isReady id cb => exact answeredOnce_isReady id cb
  | _ => exact iff_of_false (hnone rfl) id

/-- A connection that the operating system refuses at once, with `ECONNREFUSED`. -/
def refused : CommandEnv :=
  let fine := CommandEnv.fine []
  { fine with connect := { fine.connect with connect := fun _ ↦ .error ⟨.other, some 111⟩ } }

/-- The callback of a connection that is refused is dropped. -/
theorem not_answered_refused :
    ¬ AnsweredOnce [.tcp] .new .new refused (.fine [])
      (.connect .default ⟨1⟩ (.socket (.localhost 80)) ⟨0⟩) := by
  rintro ⟨cb, reply, -, h, -⟩
  have hnone : invocations [.tcp] .new .new refused (.fine [])
      (.connect .default ⟨1⟩ (.socket (.localhost 80)) ⟨0⟩) = [] := rfl
  rw [hnone] at h
  cases h

end

end MessageIo
