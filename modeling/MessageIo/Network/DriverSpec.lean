import MessageIo.Network.Callbacks

/-!
# What a driver does, in general terms

For each thing that a worker has its drivers do (a poll event, a command, a turn of the
accept loop): which effects it can have, how the registries can change and what it can
halt with.  Runs of the node need no more than this.

A driver changes the register of one id at a time (`Evolves`).  A remote that stays
registered keeps its stream, its peer and its listener.
-/

namespace MessageIo

/-! ## Resources keep their streams -/

namespace Transport

/-- A handshake that goes on, or ends, is that of the same stream. -/
theorem source_pending (t : Transport) {r r' : t.RemoteResource} {env : PendingEnv}
    {status : PendingStatus} (h : Remote.pending r env = .ok (status, r')) :
    Remote.source r' = Remote.source r := by
  cases t with
  | tcp =>
      cases h
      rfl
  | ssl =>
      obtain ⟨stream, keepaliveOpt⟩ := r
      cases stream with
      | rustlsStreamAcceptor raw acceptor serverConfig =>
          obtain ⟨_, _, h⟩ := bind_eq_ok.1 h
          cases h
          rfl
      | rustlsClientConnection sock =>
          cases h
          rfl
      | rustlsServerConnection sock =>
          cases h
          rfl
  | ws =>
      have hdone : ∀ resume (keepaliveOpt : Option TcpKeepalive),
          Ws.RemoteResource.source ⟨(Ws.RemoteResource.handshaked resume env.handshake).2,
            keepaliveOpt⟩ = .ok resume.stream := by
        intro resume _
        cases env.handshake <;> rfl
      obtain ⟨state, keepaliveOpt⟩ := r
      cases state with
      | webSocket stream =>
          cases h
          rfl
      | error stream => cases h
      | handshake pending =>
          obtain ⟨p, hp, h⟩ := bind_eq_ok.1 h
          obtain rfl := unwrapOpt_eq_ok.1 hp
          cases p with
          | connect url stream =>
              by_cases hready : checkTcpStreamReady env ≠ .ready
              · simp only [if_pos hready] at h
                cases h
                rfl
              · simp only [if_neg hready] at h
                obtain rfl := congrArg Prod.snd (Except.ok.inj h)
                exact hdone _ _
          | accept stream =>
              obtain rfl := congrArg Prod.snd (Except.ok.inj h)
              exact hdone _ _
          | client stream =>
              obtain rfl := congrArg Prod.snd (Except.ok.inj h)
              exact hdone _ _
          | server stream =>
              obtain rfl := congrArg Prod.snd (Except.ok.inj h)
              exact hdone _ _

/-- So is what is read the same stream's. -/
theorem source_receiveTurn (t : Transport) {r r' : t.RemoteResource} {env : ReadEnv}
    {turn : ReceiveTurn} (h : Remote.receiveTurn r env = .ok (turn, r')) :
    Remote.source r' = Remote.source r := by
  cases t with
  | tcp =>
      cases h
      rfl
  | ssl =>
      obtain ⟨stream, keepaliveOpt⟩ := r
      cases stream with
      | rustlsStreamAcceptor rawOpt acceptorOpt serverConfig =>
          obtain ⟨raw, hraw, h⟩ := bind_eq_ok.1 h
          obtain ⟨acceptor, hacceptor, h⟩ := bind_eq_ok.1 h
          obtain rfl := unwrapOpt_eq_ok.1 hraw
          cases hwrap : env.wrapStream with
          | ok u =>
              simp only [hwrap] at h
              cases h
              rfl
          | error kind =>
              by_cases hkind : kind = .wouldBlock
              · simp only [hwrap, if_pos hkind] at h
                cases h
                rfl
              · simp only [hwrap, if_neg hkind] at h
                cases h
                rfl
      | rustlsClientConnection sock =>
          cases h
          rfl
      | rustlsServerConnection sock =>
          cases h
          rfl
  | ws =>
      obtain ⟨state, keepaliveOpt⟩ := r
      cases state with
      | handshake pending => cases h
      | error stream => cases h
      | webSocket stream =>
          obtain ⟨read, wrapStream, wsRead, peek⟩ := env
          cases wsRead with
          | binary data =>
              cases peek <;>
              · cases h
                rfl
          | _ =>
              cases h
              rfl

theorem source_acceptedResource (t : Transport) {stream : TcpStream} {payload : Payload}
    {r : t.RemoteResource} (h : Adapter.acceptedResource t.LocalResource stream payload = .ok r) :
    Remote.source r = .ok stream := by
  cases t <;> cases payload <;> cases h <;> rfl

theorem source_connectedResource (t : Transport) {stream : TcpStream} {payload : Payload}
    {env : RegisterEnv} {r : t.RemoteResource}
    (h : Adapter.connectedResource t.LocalResource stream payload env = .ok r) :
    Remote.source r = .ok stream := by
  cases t with
  | tcp =>
      cases payload <;> cases h
      rfl
  | ws =>
      cases payload <;> cases h
      rfl
  | ssl =>
      cases payload with
      | sslConnect keepaliveOpt domainOpt =>
          obtain ⟨domain, hdomain, h⟩ := bind_eq_ok.1 h
          obtain ⟨wrapped, hwrap, h⟩ := bind_eq_ok.1 h
          cases wrapped with
          | none => cases h
          | some s =>
              cases h
              obtain ⟨-, -, rfl⟩ := wrapStream_eq_ok.1 hwrap
              rfl
      | _ => cases h

end Transport

/-! ## One register at a time -/

namespace Driver

variable {t : Transport} {d d' d'' : Driver t.RemoteResource t.LocalResource} {id : ResourceId}

/-- A register that is the same remote as before, further on. -/
structure SameRemote (r r' : Register t.RemoteResource RemoteProperties) : Prop where
  source : Remote.source r'.resource = Remote.source r.resource
  peerAddr : r'.properties.peerAddr = r.properties.peerAddr
  localId : r'.properties.localId = r.properties.localId

theorem SameRemote.refl (r : Register t.RemoteResource RemoteProperties) : SameRemote r r :=
  ⟨rfl, rfl, rfl⟩

theorem SameRemote.trans {r r' r'' : Register t.RemoteResource RemoteProperties}
    (h : SameRemote r r') (h' : SameRemote r' r'') : SameRemote r r'' :=
  ⟨h'.source.trans h.source, h'.peerAddr.trans h.peerAddr, h'.localId.trans h.localId⟩

/-- At most the register of one remote changes: it is gone, or it is the same remote. -/
structure Evolves (id : ResourceId) (d d' : Driver t.RemoteResource t.LocalResource) : Prop where
  listener : ∀ id', d'.listener id' = d.listener id'
  others : ∀ id', id' ≠ id → d'.remote id' = d.remote id'
  same : ∀ r', d'.remote id = some r' → ∃ r, d.remote id = some r ∧ SameRemote r r'

namespace Evolves

theorem refl (id : ResourceId) (d : Driver t.RemoteResource t.LocalResource) : Evolves id d d where
  listener _ := rfl
  others _ _ := rfl
  same r h := ⟨r, h, .refl r⟩

theorem trans (h : Evolves id d d') (h' : Evolves id d' d'') : Evolves id d d'' where
  listener id' := (h'.listener id').trans (h.listener id')
  others id' hne := (h'.others id' hne).trans (h.others id' hne)
  same r'' hr'' := by
    obtain ⟨r', hr', hsame'⟩ := h'.same r'' hr''
    obtain ⟨r, hr, hsame⟩ := h.same r' hr'
    exact ⟨r, hr, hsame.trans hsame'⟩

theorem deregisterRemote (id : ResourceId) (d : Driver t.RemoteResource t.LocalResource) :
    Evolves id d (d.deregisterRemote id) where
  listener _ := rfl
  others _ hne := ResourceRegistry.get_deregister_of_ne hne
  same r' hr' := by
    rw [remote, Driver.deregisterRemote, ResourceRegistry.get_deregister_self] at hr'
    cases hr'

theorem modifyRemote {r r' : Register t.RemoteResource RemoteProperties}
    (hr : d.remote id = some r) (hsame : SameRemote r r') :
    Evolves id d (d.modifyRemote id r') where
  listener _ := rfl
  others _ hne := ResourceRegistry.get_modify_of_ne hne _
  same r'' hr'' := by
    rw [remote, Driver.modifyRemote, ResourceRegistry.get_modify_self] at hr''
    obtain ⟨_, -, rfl⟩ := Option.map_eq_some_iff.1 hr''
    exact ⟨r, hr, hsame⟩

end Evolves

theorem remote_modifyRemote {r r' : Register t.RemoteResource RemoteProperties}
    (hr : d.remote id = some r) : (d.modifyRemote id r').remote id = some r' := by
  rw [remote, modifyRemote, ResourceRegistry.get_modify_self]
  exact Option.map_eq_some_iff.2 ⟨r, hr, rfl⟩

/-! ## Poll events -/

/-- An event about one remote. -/
def IsEventOf (id : ResourceId) (e : Effect) : Prop :=
  ∃ event, e = .emit (.network event) ∧ event.endpoint.resourceId = id

/-- How a call on a remote can fail to return: a plain stream only keeps on being read or
written. -/
def RemoteHalt (t : Transport) (x : Halt) : Prop := t = .tcp → x = .running

theorem event_spec {e : NetEvent} {H : Halt → Prop} (h : e.endpoint.resourceId = id) :
    (event e).Satisfies (IsEventOf id) (fun _ ↦ True) H := .of_effect ⟨e, rfl, h⟩ trivial

theorem pending_halt {r : t.RemoteResource} {env : PendingEnv} {x : Halt}
    (h : Remote.pending r env = .error x) : RemoteHalt t x := by
  rintro rfl
  cases h

theorem receive_spec (r : t.RemoteResource) (envs : List ReadEnv) :
    (Remote.receive r envs).Satisfies (fun _ ↦ True)
      (fun out ↦ Remote.source out.2 = Remote.source r) (RemoteHalt t) := by
  induction envs generalizing r with
  | nil => exact .of_halt fun _ ↦ rfl
  | cons env envs ih =>
      refine Proc.Satisfies.bind (Q := fun out ↦ Remote.source out.2 = Remote.source r)
        (.of_ofExcept ?_ ?_) ?_
      · rintro ⟨turn, r'⟩ h
        exact t.source_receiveTurn h
      · rintro x h rfl
        cases h
      · rintro ⟨turn, r'⟩ hsource
        refine Proc.Satisfies.bind (Q := fun _ ↦ True) (.of_perform (fun _ _ ↦ trivial) trivial)
          fun _ _ ↦ ?_
        cases turn.status with
        | some status => exact .of_pure hsource
        | none =>
            exact (ih r').mono (fun _ h ↦ h) (fun _ h ↦ h.trans hsource) fun _ h ↦ h

theorem tellReady_spec (endpoint : Endpoint) (localId : Option ResourceId) {H : Halt → Prop} :
    (tellReady endpoint localId).Satisfies (IsEventOf endpoint.resourceId) (fun _ ↦ True) H := by
  cases localId <;> exact event_spec rfl

theorem tellFailed_spec (endpoint : Endpoint) (localId : Option ResourceId) {H : Halt → Prop} :
    (tellFailed endpoint localId).Satisfies (IsEventOf endpoint.resourceId) (fun _ ↦ True) H := by
  cases localId with
  | none => exact event_spec rfl
  | some _ => exact .of_pure trivial

/-- What `resolve_pending_remote` leaves: the same remote, and if it is ready it is there. -/
def Resolved (id : ResourceId) (d : Driver t.RemoteResource t.LocalResource)
    (out : Driver t.RemoteResource t.LocalResource × Register t.RemoteResource RemoteProperties) :
    Prop :=
  Evolves id d out.1 ∧ (out.2.properties.ready = true → out.1.remote id = some out.2)

theorem resolvePendingRemote_spec {r : Register t.RemoteResource RemoteProperties}
    {endpoint : Endpoint} {env : PendingEnv} (hr : d.remote endpoint.resourceId = some r)
    (hready : ¬ r.properties.ready = true) :
    (d.resolvePendingRemote r endpoint env).Satisfies (IsEventOf endpoint.resourceId)
      (Resolved endpoint.resourceId d) (RemoteHalt t) := by
  refine Proc.Satisfies.bind (Q := fun out ↦ Remote.source out.2 = Remote.source r.resource)
    (.of_ofExcept ?_ fun x h ↦ pending_halt h) ?_
  · rintro ⟨status, r'⟩ h
    exact t.source_pending h
  · rintro ⟨status, r'⟩ hsource
    cases status with
    | ready =>
        exact (tellReady_spec _ _).bind fun _ _ ↦ .of_pure
          ⟨.modifyRemote hr ⟨hsource, rfl, rfl⟩, fun _ ↦ remote_modifyRemote hr⟩
    | incomplete =>
        exact .of_pure ⟨.modifyRemote hr ⟨hsource, rfl, rfl⟩, fun h ↦ absurd h hready⟩
    | disconnected =>
        exact (tellFailed_spec _ _).bind fun _ _ ↦ .of_pure
          ⟨.deregisterRemote _ _, fun h ↦ absurd h hready⟩

/-- What `whenReady` leaves: the remote that is ready is there. -/
def Ready (id : ResourceId) (d : Driver t.RemoteResource t.LocalResource)
    (out : Driver t.RemoteResource t.LocalResource ×
      Option (Endpoint × Register t.RemoteResource RemoteProperties)) : Prop :=
  Evolves id d out.1 ∧
    ∀ endpoint r, out.2 = some (endpoint, r) → endpoint.resourceId = id ∧ out.1.remote id = some r

theorem whenReady_spec (d : Driver t.RemoteResource t.LocalResource) (id : ResourceId)
    (env : PendingEnv) :
    (d.whenReady id env).Satisfies (IsEventOf id) (Ready id d) (RemoteHalt t) := by
  rw [whenReady]
  cases hr : d.remote id with
  | none => exact .of_pure ⟨.refl _ _, nofun⟩
  | some r =>
      have hresolve : (d.resolveUnlessReady r ⟨id, r.properties.peerAddr⟩ env).Satisfies
          (IsEventOf id) (Resolved id d) (RemoteHalt t) := by
        rw [resolveUnlessReady]
        by_cases hready : r.properties.ready = true
        · rw [if_pos hready]
          exact .of_pure ⟨.refl _ _, fun _ ↦ hr⟩
        · rw [if_neg hready]
          exact resolvePendingRemote_spec hr hready
      refine hresolve.bind fun out hout ↦ .of_pure ⟨hout.1, fun endpoint r' h ↦ ?_⟩
      by_cases hready : out.2.properties.ready = true
      · rw [if_pos hready] at h
        cases h
        exact ⟨rfl, hout.2 hready⟩
      · rw [if_neg hready] at h
        cases h

theorem afterReceive_spec (d : Driver t.RemoteResource t.LocalResource) (endpoint : Endpoint)
    (status : ReadStatus) :
    (d.afterReceive endpoint status).Satisfies (IsEventOf endpoint.resourceId)
      (Evolves endpoint.resourceId d) (RemoteHalt t) := by
  cases status with
  | waitNextEvent => exact .of_pure (.refl _ _)
  | disconnected =>
      rw [afterReceive]
      rcases d.remoteRegistry.deregister endpoint.resourceId with ⟨_, _ | _⟩
      · exact .of_pure (.deregisterRemote _ _)
      · exact (event_spec rfl).bind fun _ _ ↦ .of_pure (.deregisterRemote _ _)

theorem readFromRemote_spec {r : Register t.RemoteResource RemoteProperties} {endpoint : Endpoint}
    (hr : d.remote endpoint.resourceId = some r) (envs : List ReadEnv) :
    (d.readFromRemote r endpoint envs).Satisfies (IsEventOf endpoint.resourceId)
      (Evolves endpoint.resourceId d) (RemoteHalt t) := by
  refine ((receive_spec r.resource envs).mapEffects fun data _ ↦ ⟨_, rfl, rfl⟩).bind ?_
  rintro ⟨status, r'⟩ hsource
  have hmodify : Evolves endpoint.resourceId d
      (d.modifyRemote endpoint.resourceId ⟨r', r.properties⟩) :=
    .modifyRemote hr ⟨hsource, rfl, rfl⟩
  exact (afterReceive_spec _ endpoint status).mono (fun _ h ↦ h) (fun _ h ↦ hmodify.trans h)
    fun _ h ↦ h

/-- **A poll event that a remote can be read** tells of that remote only. -/
theorem processRead_spec (d : Driver t.RemoteResource t.LocalResource) {id : ResourceId}
    (hid : id.resourceType = .remote) (env : PendingEnv) (reads : List ReadEnv)
    (accepts : List AcceptEnv) :
    (d.processRead id env reads accepts).Satisfies (IsEventOf id) (Evolves id d)
      (RemoteHalt t) := by
  rw [processRead, hid]
  refine (whenReady_spec d id env).bind ?_
  rintro ⟨d', _ | ⟨endpoint, r⟩⟩ ⟨hevolves, hsome⟩
  · exact .of_pure hevolves
  · obtain ⟨rfl, hr⟩ := hsome endpoint r rfl
    exact (readFromRemote_spec hr reads).mono (fun _ h ↦ h) (fun _ h ↦ hevolves.trans h) fun _ h ↦ h

/-- **A poll event that a resource can be written** tells of that remote only. -/
theorem processWrite_spec (d : Driver t.RemoteResource t.LocalResource) (id : ResourceId)
    (env : PendingEnv) :
    (d.processWrite id env).Satisfies (IsEventOf id) (Evolves id d) (RemoteHalt t) := by
  rw [processWrite]
  cases id.resourceType with
  | «local» => exact .of_pure (.refl _ _)
  | remote =>
      refine (whenReady_spec d id env).bind ?_
      rintro ⟨d', _ | ⟨endpoint, r⟩⟩ ⟨hevolves, hsome⟩
      · exact .of_pure hevolves
      · obtain ⟨rfl, -⟩ := hsome endpoint r rfl
        have hwrite : (writeToRemote r endpoint).Satisfies (IsEventOf endpoint.resourceId)
            (fun _ ↦ True) (RemoteHalt t) := by
          rw [writeToRemote]
          split
          · exact event_spec rfl
          · exact .of_pure trivial
        exact hwrite.bind fun _ _ ↦ .of_pure hevolves

/-- Nothing happens to a remote that is not registered. -/
theorem effects_processRead_of_none (hid : id.resourceType = .remote) (h : d.remote id = none)
    (env : PendingEnv) (reads : List ReadEnv) (accepts : List AcceptEnv) :
    (d.processRead id env reads accepts).effects = [] := by
  rw [processRead, hid]
  simp only [whenReady, h]
  rfl

theorem effects_processWrite_of_none (h : d.remote id = none) (env : PendingEnv) :
    (d.processWrite id env).effects = [] := by
  rw [processWrite]
  cases id.resourceType with
  | «local» => rfl
  | remote =>
      simp only [whenReady, h]
      rfl

/-! ## Accepting -/

/-- **One turn of the accept loop**: an accepted stream is on its way to a worker, with its
peer and its listener, unless the address of the listener or an id for it cannot be had. -/
inductive AcceptTurnIs (payload : Payload) (id : ResourceId) (env : AcceptEnv) : Action Bool → Prop
  | sent {stream : TcpStream} {addr localAddr : SocketAddr} {remoteId : ResourceId}
      (haccept : env.accept = .ok stream addr)
      (hlocal : env.localAddr = .ok localAddr) (hremote : env.remoteId = some remoteId) :
      AcceptTurnIs payload id env ⟨[.post remoteId
        (.acceptRegisterRemote (id, localAddr) (remoteId, addr) stream payload)], .ok true⟩
  | noAddr {stream : TcpStream} {addr : SocketAddr} {err : IoError}
      (haccept : env.accept = .ok stream addr) (hlocal : env.localAddr = .error err) :
      AcceptTurnIs payload id env (.halt (.panic .unwrap))
  | noId {stream : TcpStream} {addr localAddr : SocketAddr} (haccept : env.accept = .ok stream addr)
      (hlocal : env.localAddr = .ok localAddr) (hremote : env.remoteId = none) :
      AcceptTurnIs payload id env (.halt (.panic .assertion))
  | nothing {kind : ErrorKind} {more : Bool} (haccept : env.accept = .err kind) :
      AcceptTurnIs payload id env (pure more)

theorem localAcceptTurn_eq (t : Transport) (l : t.LocalResource) :
    ∃ payload, Local.acceptTurn l = acceptStreamTurn payload := by
  cases t <;> exact ⟨_, rfl⟩

theorem acceptTurn_spec {t : Transport} {l : t.LocalResource} {payload : Payload}
    (hturn : Local.acceptTurn l = acceptStreamTurn payload) (id : ResourceId) (env : AcceptEnv) :
    AcceptTurnIs payload id env (acceptTurn l id env) := by
  obtain ⟨accept, localAddr, remoteId⟩ := env
  rw [acceptTurn, hturn]
  cases accept with
  | ok stream addr =>
      cases localAddr with
      | error err => exact .noAddr rfl rfl
      | ok a =>
          cases remoteId with
          | none => exact .noId rfl rfl rfl
          | some remoteId => exact .sent rfl rfl rfl
  | err kind =>
      cases kind with
      | wouldBlock => exact .nothing rfl
      | interrupted => exact .nothing rfl
      | _ => exact .nothing rfl

end Driver

/-! ## The drivers of a worker -/

open Driver

section

variable {transports : List Transport} {ps ps' : Processors} {id : ResourceId}

/-- At most the register of one remote changes, in the driver of its adapter. -/
inductive Processors.Evolve (transports : List Transport) (id : ResourceId) (ps : Processors) :
    Processors → Prop
  | intro {t : Transport} {d : Driver t.RemoteResource t.LocalResource}
      (hget : getProcessor transports id = .ok t) (h : Evolves id (ps t) d) :
      Processors.Evolve transports id ps (Function.update ps t d)

/-- Each driver evolves, though only one may change. -/
theorem Processors.Evolve.evolves (h : Processors.Evolve transports id ps ps') (t : Transport) :
    Evolves id (ps t) (ps' t) := by
  obtain @⟨t', d, hget, hd⟩ := h
  by_cases ht : t = t'
  · subst ht
    rwa [Function.update_self]
  · rw [Function.update_of_ne ht]
    exact .refl _ _

theorem Processors.Evolve.eq_of_ne {t : Transport} (h : Processors.Evolve transports id ps ps')
    (ht : getProcessor transports id ≠ .ok t) : ps' t = ps t := by
  obtain @⟨t', d, hget, hd⟩ := h
  refine Function.update_of_ne ?_ _ _
  rintro rfl
  exact ht hget

/-- How a poll event of a remote can fail to be processed. -/
def EventHalt (transports : List Transport) (id : ResourceId) (x : Halt) : Prop :=
  getProcessor transports id = .error x ∨
    ∃ t, getProcessor transports id = .ok t ∧ RemoteHalt t x

/-- A call on the driver that an id names. -/
theorem withProcessor_spec
    {call : (t : Transport) → Action (Driver t.RemoteResource t.LocalResource)}
    (h : ∀ t, (call t).Satisfies (IsEventOf id) (Evolves id (ps t)) (RemoteHalt t)) :
    Proc.Satisfies (do
        let t ← Proc.ofExcept (getProcessor transports id)
        let d ← call t
        return Function.update ps t d)
      (IsEventOf id) (Processors.Evolve transports id ps) (EventHalt transports id) := by
  refine Proc.Satisfies.bind (Q := fun t ↦ getProcessor transports id = .ok t)
    (.of_ofExcept (fun _ h ↦ h) fun _ h ↦ .inl h) fun t hget ↦ ?_
  refine Proc.Satisfies.bind ((h t).mono (fun _ h ↦ h) (fun _ h ↦ h) fun _ h ↦ .inr ⟨t, hget, h⟩) ?_
  exact fun d hd ↦ .of_pure (.intro hget hd)

theorem processNetworkRead_spec (hid : id.resourceType = .remote) (env : PendingEnv)
    (reads : List ReadEnv) :
    (processNetworkRead transports ps id env reads).Satisfies (IsEventOf id)
      (Processors.Evolve transports id ps) (EventHalt transports id) :=
  withProcessor_spec fun t ↦ processRead_spec (ps t) hid env reads []

theorem processNetworkWrite_spec (env : PendingEnv) :
    (processNetworkWrite transports ps id env).Satisfies (IsEventOf id)
      (Processors.Evolve transports id ps) (EventHalt transports id) :=
  withProcessor_spec fun t ↦ processWrite_spec (ps t) id env

end

/-! ## Commands -/

/-- What a command can do to the world. -/
inductive CommandEffect (c : WakerCommand) (env : CommandEnv) : Effect → Prop
  | emit (h : c.isEvent = true) : CommandEffect c env (.emit (.waker c))
  | post {config : ConnectConfig} {id : ResourceId} {raddr : RemoteAddr} {cb : Callback}
      {info : ConnectionInfo} {payload : Payload} (hc : c = .connect config id raddr cb)
      (hstream : info.stream = env.connect.stream) :
      CommandEffect c env (.post id (registration id cb info payload))
  | call {cb : Callback} {reply : Reply}
      (h : ∀ endpoint addr, reply = .connect (.ok (endpoint, addr)) →
        ∃ a, c.arrival = some a ∧ a.id = endpoint.resourceId ∧ a.listener = none) :
      CommandEffect c env (.call cb reply)
  | write (w : Written) : CommandEffect c env (.write w)

/-- A driver with a new remote. -/
def Driver.withRemote {t : Transport} (d : Driver t.RemoteResource t.LocalResource) (a : Arrival)
    (r : t.RemoteResource) : Driver t.RemoteResource t.LocalResource :=
  { d with remoteRegistry := d.remoteRegistry.register a.id r (.new a.addr a.listener) }

/-- What a command can do to the drivers. -/
inductive CommandDone (transports : List Transport) (ps : Processors) (c : WakerCommand) :
    Processors → Prop
  | registers {a : Arrival} {t : Transport} {r : t.RemoteResource} (harrival : c.arrival = some a)
      (hget : getProcessor transports a.id = .ok t) (hsource : Remote.source r = .ok a.stream) :
      CommandDone transports ps c (Function.update ps t ((ps t).withRemote a r))
  | closes {id : ResourceId} {t : Transport} (hc : c = .close id)
      (hget : getProcessor transports id = .ok t) :
      CommandDone transports ps c (Function.update ps t ((ps t).processClose id).1)
  | listens {config : ListenConfig} {localId : ResourceId} {addr : SocketAddr} {cb : Callback}
      {t : Transport} {d : Driver t.RemoteResource t.LocalResource}
      (hc : c = .listen config localId addr cb) (hremote : ∀ id, d.remote id = (ps t).remote id) :
      CommandDone transports ps c (Function.update ps t d)
  | keeps (harrival : c.arrival = none) : CommandDone transports ps c ps

section

variable {transports : List Transport} {ps : Processors} {env : CommandEnv}

theorem getProcessor_spec {E : Effect → Prop} {id : ResourceId} :
    (Proc.ofExcept (getProcessor transports id)).Satisfies E
      (fun t ↦ getProcessor transports id = .ok t) (fun _ ↦ True) :=
  .of_ofExcept (fun _ h ↦ h) fun _ _ ↦ trivial

theorem registerRemote_spec {E : Effect → Prop} {t : Transport} (a : Arrival)
    (d : Driver t.RemoteResource t.LocalResource) (r : t.RemoteResource) (pollAdd : IoResult Unit) :
    (Proc.ofExcept (d.registerRemote a.id r (.new a.addr a.listener) pollAdd)).Satisfies E
      (fun d' ↦ d' = d.withRemote a r) (fun _ ↦ True) := by
  refine .of_ofExcept (fun d' h ↦ ?_) fun _ _ ↦ trivial
  obtain ⟨_, _, h⟩ := bind_eq_ok.1 h
  cases h
  rfl

theorem processSend_spec {c : WakerCommand} {t : Transport} {endpoint : Endpoint} {data : Bytes} :
    ((ps t).processSend endpoint data env.send).Satisfies (CommandEffect c env) (fun _ ↦ True)
      (fun _ ↦ True) where
  effects e he := by
    obtain ⟨ws, hws⟩ : ∃ ws : List Written,
        ((ps t).processSend endpoint data env.send).effects = ws.map .write := processSend_effects
    rw [hws] at he
    obtain ⟨w, -, rfl⟩ := List.mem_map.1 he
    exact .write w
  returns _ _ := trivial
  halts _ _ := trivial

/-- A connection is one of the stream that was made for it. -/
theorem stream_connect {t : Transport} {config : ConnectConfig} {raddr : RemoteAddr}
    {env : ConnectEnv} {info : ConnectionInfo} {payload : Payload}
    (h : Adapter.connect t.RemoteResource t.LocalResource config raddr env =
      .ok (.ok (info, payload))) : info.stream = env.stream := by
  have hinfo : ∀ {peerAddr domain} {f : ConnectionInfo → Payload},
      ((remoteConnectWith config peerAddr domain env).map fun info ↦ (info, f info)) =
        .ok (info, payload) → info.stream = env.stream := by
    intro peerAddr domain f h
    obtain ⟨info', hinfo', heq⟩ := map_eq_ok.1 h
    cases heq
    obtain ⟨-, d, a, -, -, rfl⟩ := remoteConnectWith_eq_ok.1 hinfo'
    rfl
  cases t with
  | tcp =>
      obtain ⟨peerAddr, -, h⟩ := bind_eq_ok.1 h
      exact hinfo (Except.ok.inj h)
  | ws =>
      obtain ⟨⟨peerAddr, url⟩, -, h⟩ := bind_eq_ok.1 h
      exact hinfo (Except.ok.inj h)
  | ssl =>
      cases raddr with
      | str path => cases h
      | socket addr =>
          obtain ⟨uri, -, h⟩ := bind_eq_ok.1 h
          exact hinfo (Except.ok.inj h)

/-- **What a command does**: its effects, and the drivers after it. -/
theorem processCommand_spec (transports : List Transport) (ps : Processors) (c : WakerCommand)
    (env : CommandEnv) :
    (processCommand transports ps c env).Satisfies (CommandEffect c env)
      (CommandDone transports ps c) (fun _ ↦ True) := by
  cases c with
  | greet text => exact .effect_bind (.emit rfl) (.of_pure (.keeps rfl))
  | stop => exact .effect_bind (.emit rfl) (.of_pure (.keeps rfl))
  | acceptRegisterRemote localPair remotePair stream payload =>
      refine getProcessor_spec.bind fun t hget ↦ ?_
      have hcall : ((ps t).processAcceptRegisterRemote localPair remotePair stream payload
          env.register).Satisfies (CommandEffect (.acceptRegisterRemote localPair remotePair stream
            payload) env) (fun d ↦ ∃ r, Remote.source r = .ok stream ∧
              d = (ps t).withRemote ⟨remotePair.1, stream, remotePair.2, some localPair.1⟩ r)
          (fun _ ↦ True) := by
        refine Proc.Satisfies.bind (Q := fun r ↦ Remote.source r = .ok stream)
          (.of_ofExcept (fun r hr ↦ t.source_acceptedResource hr) fun _ _ ↦ trivial) fun r hr ↦ ?_
        exact (registerRemote_spec ⟨remotePair.1, stream, remotePair.2, some localPair.1⟩ (ps t) r
          env.register.pollAdd).mono (fun _ h ↦ h) (fun d hd ↦ ⟨r, hr, hd⟩) fun _ h ↦ h
      refine hcall.bind ?_
      rintro d ⟨r, hr, rfl⟩
      exact .of_pure (.registers rfl hget hr)
  | connectRegisterRemote localAddr remotePair stream payload cb =>
      refine getProcessor_spec.bind fun t hget ↦ ?_
      have hcall : ((ps t).processConnectRegisterRemote localAddr remotePair stream payload cb
          env.register).Satisfies (CommandEffect (.connectRegisterRemote localAddr remotePair stream
            payload cb) env) (fun d ↦ ∃ r, Remote.source r = .ok stream ∧
              d = (ps t).withRemote ⟨remotePair.1, stream, remotePair.2, none⟩ r)
          (fun _ ↦ True) := by
        refine Proc.Satisfies.bind (Q := fun r ↦ Remote.source r = .ok stream)
          (.of_ofExcept (fun r hr ↦ t.source_connectedResource hr) fun _ _ ↦ trivial) fun r hr ↦ ?_
        refine (registerRemote_spec ⟨remotePair.1, stream, remotePair.2, none⟩ (ps t) r
          env.register.pollAdd).bind fun d hd ↦ .effect_bind (.call ?_) (.of_pure ⟨r, hr, hd⟩)
        intro endpoint addr h
        cases h
        exact ⟨_, rfl, rfl, rfl⟩
      refine hcall.bind ?_
      rintro d ⟨r, hr, rfl⟩
      exact .of_pure (.registers rfl hget hr)
  | listen config localId addr cb =>
      refine getProcessor_spec.bind fun t hget ↦ ?_
      have hcall : ((ps t).processListen config localId addr cb env.listen).Satisfies
          (CommandEffect (.listen config localId addr cb) env)
          (fun d ↦ ∀ id, d.remote id = (ps t).remote id) (fun _ ↦ True) := by
        refine Proc.Satisfies.bind (Q := fun _ ↦ True)
          (.of_ofExcept (fun _ _ ↦ trivial) fun _ _ ↦ trivial) fun ret _ ↦ ?_
        rcases ret with err | ⟨l, a⟩
        · exact .effect_bind (.call nofun) (.of_pure fun _ ↦ rfl)
        · refine Proc.Satisfies.bind (Q := fun d ↦ ∀ id, d.remote id = (ps t).remote id)
            (.of_ofExcept (fun d hd ↦ ?_) fun _ _ ↦ trivial) fun d hd ↦ ?_
          · obtain ⟨_, _, hd⟩ := bind_eq_ok.1 hd
            cases hd
            exact fun _ ↦ rfl
          · exact .effect_bind (.call nofun) (.of_pure hd)
      exact hcall.bind fun d hd ↦ .of_pure (.listens rfl hd)
  | connect config remoteId raddr cb =>
      refine getProcessor_spec.bind fun t hget ↦ ?_
      have hcall : (processConnect t.RemoteResource t.LocalResource config remoteId raddr cb
          env.connect).Satisfies (CommandEffect (.connect config remoteId raddr cb) env)
          (fun _ ↦ True) (fun _ ↦ True) := by
        refine Proc.Satisfies.bind (Q := fun ret ↦ ∀ info payload, ret = .ok (info, payload) →
          info.stream = env.connect.stream) (.of_ofExcept ?_ fun _ _ ↦ trivial) fun ret hret ↦ ?_
        · rintro ret hret info payload rfl
          exact stream_connect hret
        · rcases ret with err | ⟨info, payload⟩
          · exact .of_pure trivial
          · exact .of_effect (.post rfl (hret info payload rfl)) trivial
      exact hcall.bind fun _ _ ↦ .of_pure (.keeps rfl)
  | send endpoint buffer =>
      exact getProcessor_spec.bind fun t _ ↦ processSend_spec.bind fun _ _ ↦ .of_pure (.keeps rfl)
  | sendSync endpoint buffer cb =>
      exact getProcessor_spec.bind fun t _ ↦ processSend_spec.bind fun _ _ ↦
        .effect_bind (.call nofun) (.of_pure (.keeps rfl))
  | close id => exact getProcessor_spec.bind fun t hget ↦ .of_pure (.closes rfl hget)
  | isReady id cb =>
      exact getProcessor_spec.bind fun t _ ↦
        .effect_bind (.call nofun) (.of_pure (.keeps rfl))

/-! ## Arrivals and their callbacks -/

/-- **Only a connection sends a stream on its way**: one at most, with the id it was asked for. -/
theorem arrivals_processCommand (transports : List Transport) (ps : Processors) (c : WakerCommand)
    (env : CommandEnv) :
    arrivals (processCommand transports ps c env).effects = [] ∨
      ∃ config id raddr cb a, c = .connect config id raddr cb ∧
        arrivals (processCommand transports ps c env).effects = [a] ∧ a.id = id ∧
          a.stream = env.connect.stream ∧ a.listener = none := by
  by_cases hc : ∃ config id raddr cb, c = .connect config id raddr cb
  · obtain ⟨config, id, raddr, cb, rfl⟩ := hc
    cases hget : getProcessor transports id with
    | error x =>
        left
        rw [processCommand, hget]
        rfl
    | ok t =>
        rw [effects_connect hget]
        cases hconnect :
          Adapter.connect t.RemoteResource t.LocalResource config raddr env.connect with
        | error x => exact .inl rfl
        | ok ret =>
            rcases ret with err | ⟨info, payload⟩
            · exact .inl rfl
            · exact .inr ⟨config, id, raddr, cb, _, rfl, rfl, rfl, stream_connect hconnect, rfl⟩
  · left
    have hspec := (processCommand_spec transports ps c env).effects
    have hposts : posts (processCommand transports ps c env).effects = [] := by
      refine List.filterMap_eq_nil_iff.2 fun e he ↦ ?_
      cases hspec e he with
      | post hconnect hstream => exact absurd ⟨_, _, _, _, hconnect⟩ hc
      | emit h => rfl
      | call h => rfl
      | write w => rfl
    rw [arrivals, hposts, List.filterMap_nil]

/-- A connection is registered and its callback invoked, or neither. -/
theorem processCommand_connectRegister (transports : List Transport) (ps : Processors)
    (localAddr : SocketAddr) (remotePair : ResourceId × SocketAddr) (stream : TcpStream)
    (payload : Payload) (cb : Callback) (env : CommandEnv) :
    (∃ x, processCommand transports ps
        (.connectRegisterRemote localAddr remotePair stream payload cb) env = .halt x) ∨
      ∃ ps', processCommand transports ps
        (.connectRegisterRemote localAddr remotePair stream payload cb) env =
          ⟨[.call cb (.connect (.ok (⟨remotePair.1, remotePair.2⟩, localAddr)))], .ok ps'⟩ := by
  rw [processCommand]
  cases hget : getProcessor transports remotePair.1 with
  | error x => exact .inl ⟨x, rfl⟩
  | ok t =>
      rw [Proc.ofExcept_ok_bind, Driver.processConnectRegisterRemote]
      cases hr : (Adapter.connectedResource t.LocalResource stream payload env.register :
          Except Halt t.RemoteResource) with
      | error x => exact .inl ⟨x, rfl⟩
      | ok r =>
          rw [Proc.ofExcept_ok_bind, Driver.registerRemote]
          cases env.register.pollAdd with
          | error err => exact .inl ⟨_, rfl⟩
          | ok u => exact .inr ⟨_, rfl⟩

/-- **A callback that names a connection** is all that is left of its registration. -/
theorem mem_effects_call_connect {c : WakerCommand} {cb : Callback} {endpoint : Endpoint}
    {addr : SocketAddr} (h : .call cb (.connect (.ok (endpoint, addr))) ∈
      (processCommand transports ps c env).effects) :
    ∃ a ps', c.arrival = some a ∧ a.listener = none ∧ a.id = endpoint.resourceId ∧
      a.addr = endpoint.addr ∧
        processCommand transports ps c env =
          ⟨[.call cb (.connect (.ok (endpoint, addr)))], .ok ps'⟩ := by
  obtain ⟨a, harrival, hlistener⟩ : ∃ a, c.arrival = some a ∧ a.listener = none := by
    cases (processCommand_spec transports ps c env).effects _ h with
    | call hcall =>
        obtain ⟨a, harrival, -, hlistener⟩ := hcall endpoint addr rfl
        exact ⟨a, harrival, hlistener⟩
  cases c with
  | connectRegisterRemote localAddr remotePair stream payload cb' =>
      cases harrival
      rcases processCommand_connectRegister transports ps localAddr remotePair stream
        payload cb' env
        with ⟨x, hhalt⟩ | ⟨ps', hok⟩
      · rw [hhalt] at h
        cases h
      · rw [hok] at h
        cases List.mem_singleton.1 h
        exact ⟨_, ps', rfl, rfl, rfl, rfl, hok⟩
  | acceptRegisterRemote localPair remotePair stream payload =>
      cases harrival
      cases hlistener
  | _ => cases harrival

/-- What is left of the registration of a connection is the call of its callback. -/
theorem effects_of_registers {c : WakerCommand} {a : Arrival} {ps' : Processors}
    (harrival : c.arrival = some a) (hlistener : a.listener = none)
    (hres : (processCommand transports ps c env).result = .ok ps') :
    ∃ cb addr, (processCommand transports ps c env).effects =
      [.call cb (.connect (.ok (⟨a.id, a.addr⟩, addr)))] := by
  cases c with
  | connectRegisterRemote localAddr remotePair stream payload cb =>
      cases harrival
      rcases processCommand_connectRegister transports ps localAddr remotePair stream payload cb env
        with ⟨x, hhalt⟩ | ⟨ps', hok⟩
      · rw [hhalt] at hres
        cases hres
      · exact ⟨cb, localAddr, congrArg Proc.effects hok⟩
  | acceptRegisterRemote localPair remotePair stream payload =>
      cases harrival
      cases hlistener
  | _ => cases harrival

end

/-! ## Registers and arrivals -/

/-- The register of a remote is that of an arrival. -/
structure Holds {t : Transport} (r : Register t.RemoteResource RemoteProperties) (a : Arrival) :
    Prop where
  source : Remote.source r.resource = .ok a.stream
  peerAddr : r.properties.peerAddr = a.addr
  localId : r.properties.localId = a.listener

theorem Holds.of_same {t : Transport} {r r' : Register t.RemoteResource RemoteProperties}
    {a : Arrival} (h : Holds r a) (hsame : Driver.SameRemote r r') : Holds r' a :=
  ⟨hsame.source.trans h.source, hsame.peerAddr.trans h.peerAddr, hsame.localId.trans h.localId⟩

namespace CommandDone

variable {transports : List Transport} {ps ps' : Processors} {c : WakerCommand} {t : Transport}
  {id : ResourceId} {a : Arrival}

theorem remote_withRemote {d : Driver t.RemoteResource t.LocalResource} {r : t.RemoteResource} :
    (d.withRemote a r).remote id =
      if id = a.id then some ⟨r, .new a.addr a.listener⟩ else d.remote id := by
  split
  · rename_i h
    subst h
    exact ResourceRegistry.get_register_self ..
  · rename_i h
    exact ResourceRegistry.get_register_of_ne h ..

theorem remote_processClose (d : Driver t.RemoteResource t.LocalResource) (id id' : ResourceId) :
    (d.processClose id').1.remote id = d.remote id ∨
      id = id' ∧ (d.processClose id').1.remote id = none := by
  rw [Driver.processClose]
  cases id'.resourceType with
  | «local» => exact .inl rfl
  | remote =>
      by_cases hid : id = id'
      · subst hid
        exact .inr ⟨rfl, ResourceRegistry.get_deregister_self ..⟩
      · exact .inl (ResourceRegistry.get_deregister_of_ne hid)

/-- The remotes after a command are the ones before, but for the one that it registers. -/
theorem remote_cases (hdone : CommandDone transports ps c ps')
    {r : Register t.RemoteResource RemoteProperties} (hr : (ps' t).remote id = some r) :
    (ps t).remote id = some r ∨ ∃ a, c.arrival = some a ∧ getProcessor transports a.id = .ok t ∧
      a.id = id ∧ Holds r a := by
  have hupdate : ∀ {t' : Transport} {d : Driver t'.RemoteResource t'.LocalResource},
      ps' = Function.update ps t' d → t ≠ t' → (ps t).remote id = some r := by
    rintro t' d rfl ht
    rwa [Function.update_of_ne ht] at hr
  cases hdone with
  | keeps harrival => exact .inl hr
  | @registers a t' r' harrival hget hsource =>
      by_cases ht : t = t'
      · subst ht
        rw [Function.update_self, remote_withRemote] at hr
        split at hr
        · rename_i hid
          cases hr
          exact .inr ⟨a, harrival, hget, hid.symm, hsource, rfl, rfl⟩
        · exact .inl hr
      · exact .inl (hupdate rfl ht)
  | @closes id' t' hc hget =>
      by_cases ht : t = t'
      · subst ht
        rw [Function.update_self] at hr
        rcases remote_processClose (ps t) id id' with hsame | ⟨-, hnone⟩
        · exact .inl (hsame.symm.trans hr)
        · cases hr.symm.trans hnone
      · exact .inl (hupdate rfl ht)
  | @listens config localId addr cb t' d hc hremote =>
      by_cases ht : t = t'
      · subst ht
        rw [Function.update_self, hremote] at hr
        exact .inl hr
      · exact .inl (hupdate rfl ht)

/-- Only a close takes a remote away. -/
theorem isSome_or_close (hdone : CommandDone transports ps c ps')
    (hsome : ((ps t).remote id).isSome) :
    ((ps' t).remote id).isSome ∨ c = .close id ∧ getProcessor transports id = .ok t := by
  have hupdate : ∀ {t' : Transport} {d : Driver t'.RemoteResource t'.LocalResource},
      ps' = Function.update ps t' d → t ≠ t' → ((ps' t).remote id).isSome := by
    rintro t' d rfl ht
    rwa [Function.update_of_ne ht]
  cases hdone with
  | keeps harrival => exact .inl hsome
  | @registers a t' r harrival hget hsource =>
      left
      by_cases ht : t = t'
      · subst ht
        rw [Function.update_self, remote_withRemote]
        split
        · rfl
        · exact hsome
      · exact hupdate rfl ht
  | @closes id' t' hc hget =>
      by_cases ht : t = t'
      · subst ht
        rw [Function.update_self]
        rcases remote_processClose (ps t) id id' with hsame | ⟨rfl, -⟩
        · rw [hsame]
          exact .inl hsome
        · exact .inr ⟨hc, hget⟩
      · exact .inl (hupdate rfl ht)
  | @listens config localId addr cb t' d hc hremote =>
      left
      by_cases ht : t = t'
      · subst ht
        rw [Function.update_self, hremote]
        exact hsome
      · exact hupdate rfl ht

/-- A command that registers a stream leaves it registered, with the driver of its id. -/
theorem isSome_of_arrival (hdone : CommandDone transports ps c ps')
    (harrival : c.arrival = some a) :
    ∃ t, getProcessor transports a.id = .ok t ∧ ((ps' t).remote a.id).isSome := by
  cases hdone with
  | keeps hnone => cases hnone.symm.trans harrival
  | closes hc hget =>
      subst hc
      cases harrival
  | listens hc hremote =>
      subst hc
      cases harrival
  | @registers a' t r harrival' hget hsource =>
      cases harrival'.symm.trans harrival
      refine ⟨t, hget, ?_⟩
      rw [Function.update_self, remote_withRemote, if_pos rfl]
      rfl

end CommandDone

end MessageIo
