import MessageIo.Node.NoPanic

/-!
# Payloads whose type is erased

A register command carries a payload that only the driver which made it knows the type of.
The worker that takes the command picks a driver by the adapter of the id and has it treat
the payload as its own, unchecked.  `payloads_agree` says that this is right for every
command in every queue: the id of the command is for the adapter of the driver that made
the payload, since it is either the id of the connection itself or one that was made for
the adapter of the listener.
-/

namespace MessageIo

/-! ## The payloads of a transport -/

/-- The type of what travels with a stream that was accepted: `TcpAcceptPayload`,
`SslAcceptPayload` or `WsAcceptPayload`. -/
inductive Transport.AcceptPayload : Transport → Payload → Prop
  | tcp (keepaliveOpt : Option TcpKeepalive) : AcceptPayload .tcp (.tcpAccept keepaliveOpt)
  | ssl (keepaliveOpt : Option TcpKeepalive) (serverConfig : ServerConfig) :
      AcceptPayload .ssl (.sslAccept keepaliveOpt serverConfig)
  | ws (keepaliveOpt : Option TcpKeepalive) : AcceptPayload .ws (.wsAccept keepaliveOpt)

/-- The type of what travels with a stream that was connected: `TcpConnectPayload`,
`SslConnectPayload` or `WsConnectPayload`. -/
inductive Transport.ConnectPayload : Transport → Payload → Prop
  | tcp (keepaliveOpt : Option TcpKeepalive) : ConnectPayload .tcp (.tcpConnect keepaliveOpt)
  | ssl (keepaliveOpt : Option TcpKeepalive) (domainOpt : Option String) :
      ConnectPayload .ssl (.sslConnect keepaliveOpt domainOpt)
  | ws (url : Url) (keepaliveOpt : Option TcpKeepalive) :
      ConnectPayload .ws (.wsConnect url keepaliveOpt)

/-- A driver treats an accepted payload as its own exactly if it is. -/
theorem Transport.AcceptPayload.iff_acceptedResource {t : Transport} {stream : TcpStream}
    {payload : Payload} :
    t.AcceptPayload payload ↔ (Adapter.acceptedResource t.LocalResource stream payload :
      Except Halt t.RemoteResource) ≠ .error (.panic .downcast) := by
  constructor
  · rintro ⟨⟩ <;> exact nofun
  · intro h
    cases t <;> cases payload <;> first | constructor | exact absurd rfl h

/-- A wrapped stream fails for the certificates only. -/
theorem wrapStream_not_downcast {stream : TcpStream} {domain : String} {env : RegisterEnv} :
    Ssl.wrapStream stream domain env ≠ .error (.panic .downcast) := by
  rw [Ssl.wrapStream]
  cases env.nativeCerts with
  | error err => rintro ⟨⟩
  | ok u => rintro ⟨⟩

/-- So it does with a connected one. -/
theorem Transport.ConnectPayload.not_downcast {t : Transport} {stream : TcpStream}
    {payload : Payload} {env : RegisterEnv} (h : t.ConnectPayload payload) :
    (Adapter.connectedResource t.LocalResource stream payload env : Except Halt t.RemoteResource) ≠
      .error (.panic .downcast) := by
  cases h with
  | tcp keepaliveOpt => rintro ⟨⟩
  | ws url keepaliveOpt => rintro ⟨⟩
  | ssl keepaliveOpt domainOpt =>
      cases domainOpt with
      | none => rintro ⟨⟩
      | some domain =>
          change Ssl.wrapStream stream domain env >>= _ ≠ _
          cases hwrap : Ssl.wrapStream stream domain env with
          | error halt =>
              rintro ⟨⟩
              exact wrapStream_not_downcast hwrap
          | ok out =>
              cases out with
              | none => rintro ⟨⟩
              | some s => rintro ⟨⟩

/-- **The processor of the id makes of the payload what it is.** -/
def Agrees (transports : List Transport) : WakerCommand → Prop
  | .acceptRegisterRemote _ (remoteId, _) _ payload =>
      ∃ t, getProcessor transports remoteId = .ok t ∧ t.AcceptPayload payload
  | .connectRegisterRemote _ (remoteId, _) _ payload _ =>
      ∃ t, getProcessor transports remoteId = .ok t ∧ t.ConnectPayload payload
  | _ => True

/-- Only a registration has a payload. -/
theorem Agrees.of_arrival {transports : List Transport} {c : WakerCommand} (h : c.arrival = none) :
    Agrees transports c := by
  cases c <;> trivial

/-! ## The payloads that drivers make -/

variable {transports : List Transport}

theorem acceptPayload_acceptTurn (t : Transport) (l : t.LocalResource) :
    ∃ payload, Local.acceptTurn l = acceptStreamTurn payload ∧ t.AcceptPayload payload := by
  cases t with
  | tcp => exact ⟨_, rfl, .tcp _⟩
  | ssl => exact ⟨_, rfl, .ssl _ _⟩
  | ws => exact ⟨_, rfl, .ws _⟩

theorem connectPayload_connect {t : Transport} {config : ConnectConfig} {raddr : RemoteAddr}
    {env : ConnectEnv} {info : ConnectionInfo} {payload : Payload}
    (h : Adapter.connect t.RemoteResource t.LocalResource config raddr env =
      .ok (.ok (info, payload))) : t.ConnectPayload payload := by
  cases t with
  | tcp =>
      obtain ⟨peerAddr, -, h⟩ := bind_eq_ok.1 h
      obtain ⟨info', -, heq⟩ := map_eq_ok.1 (Except.ok.inj h)
      cases heq
      exact .tcp _
  | ws =>
      obtain ⟨⟨peerAddr, url⟩, -, h⟩ := bind_eq_ok.1 h
      obtain ⟨info', -, heq⟩ := map_eq_ok.1 (Except.ok.inj h)
      cases heq
      exact .ws url _
  | ssl =>
      cases raddr with
      | str path => cases h
      | socket addr =>
          obtain ⟨uri, -, h⟩ := bind_eq_ok.1 h
          obtain ⟨info', -, heq⟩ := map_eq_ok.1 (Except.ok.inj h)
          cases heq
          exact .ssl _ _

/-- The command that a connection posts. -/
theorem agrees_processCommand {ps : Processors} {c c' : WakerCommand} {id : ResourceId}
    {env : CommandEnv} (h : .post id c' ∈ (processCommand transports ps c env).effects) :
    Agrees transports c' := by
  cases (processCommand_spec transports ps c env).effects _ h with
  | post hc hstream =>
      subst hc
      cases hget : getProcessor transports id with
      | error x =>
          rw [processCommand, hget] at h
          cases h
      | ok t =>
          rw [effects_connect hget] at h
          cases hconnect : Adapter.connect t.RemoteResource t.LocalResource _ _ env.connect with
          | error x =>
              rw [hconnect] at h
              cases h
          | ok ret =>
              rw [hconnect] at h
              rcases ret with err | ⟨info, payload⟩
              · cases h
              · rw [(Effect.post.inj (List.mem_singleton.1 h)).2]
                exact ⟨t, hget, connectPayload_connect hconnect⟩

/-- The command that a turn of the accept loop posts. -/
theorem agrees_acceptTurn {t : Transport} {l : t.LocalResource} {id remoteId : ResourceId}
    {c : WakerCommand} {env : AcceptEnv} (hget : getProcessor transports id = .ok t)
    (hremote : ∀ remoteId, env.remoteId = some remoteId → remoteId.adapterId = id.adapterId)
    (h : .post remoteId c ∈ (Driver.acceptTurn l id env).effects) : Agrees transports c := by
  obtain ⟨payload, hpayload, htype⟩ := acceptPayload_acceptTurn t l
  have hturn := Driver.acceptTurn_spec hpayload id env
  generalize Driver.acceptTurn l id env = turn at hturn h
  cases hturn with
  | sent haccept hlocal hid =>
      cases List.mem_singleton.1 h
      obtain ⟨ht, hadapter⟩ := getProcessor_eq_ok.1 hget
      exact ⟨t, getProcessor_eq_ok.2 ⟨ht, (hremote _ hid).trans hadapter⟩, htype⟩
  | noAddr haccept hlocal => cases h
  | noId haccept hlocal hid => cases h
  | nothing haccept => cases h

/-! ## Over whole runs -/

variable {N : Nat}

namespace Node

/-- Registrations are posted by the drivers only. -/
def RegistersNothing (_ : Node N) : Step N → Prop
  | .enqueue _ c => c.arrival = none
  | _ => True

/-- **The invariant**: payloads agree wherever they are, and a listener is accepted from by the
driver of its adapter. -/
structure Agreement (transports : List Transport) (s : Node N) : Prop where
  queued : ∀ m, ∀ p ∈ (s.muxes m).queue, Agrees transports p.command
  posted : ∀ m id c, .effect (.post id c) ∈ (s.muxes m).phase.pending → Agrees transports c
  accepting : ∀ m t l id, .accept t l id ∈ (s.muxes m).phase.tasks →
    getProcessor transports id = .ok t

theorem agreement_new (transports : List Transport) : (new N).Agreement transports where
  queued _ _ h := absurd h List.not_mem_nil
  posted _ _ _ h := absurd h List.not_mem_nil
  accepting _ _ _ _ h := absurd h List.not_mem_nil

variable [NeZero N] {s s' : Node N} {m : Ctl N} {a : Answers}

omit [NeZero N] in
/-- What the call of a step posts. -/
theorem Agreement.calls {p : Action Processors} {id : ResourceId} {c : WakerCommand}
    (h : s.Agreement transports) (hp : Calls transports s m a p) (he : .post id c ∈ p.effects) :
    Agrees transports c := by
  cases hp with
  | noProcessor hphase hget => cases he
  | remote hphase hevent =>
      obtain ⟨event, heq, -⟩ : Driver.IsEventOf _ (.post id c) := hevent.spec.effects _ he
      cases heq
  | post hphase hqueue => exact agrees_processCommand he
  | @accept t l id' tasks hphase =>
      have hget : getProcessor transports id' = .ok t := by
        apply h.accepting m t l id'
        rw [hphase]
        exact List.mem_cons_self
      exact agrees_acceptTurn hget
        (fun remoteId hid ↦ (ResourceIdGenerator.generate_some hid).2.1) he

theorem Agreement.stepMux (h : s.Agreement transports) (hs : MuxStep transports s m a s') :
    s'.Agreement transports where
  queued m' p hp := by
    rcases hs.mem_queue hp with hp | ⟨id, hpending, -, -⟩
    · exact h.queued m' p hp
    · exact h.posted m id p.command hpending
  posted m' id c he := by
    rcases hs.mem_pending he with he | ⟨-, p, hp, he⟩
    · exact h.posted m' id c he
    · exact h.calls hp he
  accepting m' t l id ht := by
    rcases hs.mem_tasks ht with ht | ⟨-, ht⟩
    · exact h.accepting m' t l id ht
    · cases ht with
      | accept hphase hget => exact hget

/-- **Every step keeps the agreement.** -/
theorem Agreement.step {b : Step N} (h : s.Agreement transports) (hnone : s.RegistersNothing b)
    (hs : s.step transports b = some s') : s'.Agreement transports := by
  cases b with
  | generate resourceType t =>
      rw [Node.step] at hs
      split at hs
      · cases hs
        cases resourceType <;> exact ⟨h.queued, h.posted, h.accepting⟩
      · cases hs
  | enqueue m c =>
      cases hs
      refine ⟨fun m' p hp ↦ ?_, fun m' id c' he ↦ ?_, fun m' t l id ht ↦ ?_⟩
      · rcases mem_queue_enqueue hp with hp | ⟨rfl, rfl⟩
        · exact h.queued m' p hp
        · exact .of_arrival hnone
      · rw [phase_enqueue] at he
        exact h.posted m' id c' he
      · rw [phase_enqueue] at ht
        exact h.accepting m' t l id ht
  | wake m =>
      rw [Node.step] at hs
      split at hs
      · cases hs
        refine ⟨fun m' p hp ↦ ?_, fun m' id c' he ↦ ?_, fun m' t l id ht ↦ ?_⟩
        · exact h.queued m' p (mem_queue_update hp muxes_wake fun _ hp ↦ hp)
        · rw [phase_wake] at he
          exact h.posted m' id c' he
        · rw [phase_wake] at ht
          exact h.accepting m' t l id ht
      · cases hs
  | stop =>
      cases hs
      exact ⟨h.queued, h.posted, h.accepting⟩
  | mux m a => exact h.stepMux (stepMux_cases hs)

/-- **Unchecked downcasts agree.**  Whatever transports are enabled, and whatever the user does
but post registrations: every registration in every queue has a payload of the type that the
processor of its id takes it for. -/
theorem payloads_agree (transports : List Transport)
    (h : Transition.Reach (step transports) RegistersNothing (new N) s) :
    ∀ m, ∀ p ∈ (s.muxes m).queue, Agrees transports p.command :=
  (h.invariant (P := Agreement transports) (agreement_new transports)
    fun hs hnone hstep ↦ hs.step hnone hstep).queued

/-- A connection on its way to its worker. -/
theorem payloads_agree_connecting : ∃ s : Node 1,
    Transition.run (step [.tcp]) (connecting (.socket (.localhost 80))) masterConnects = some s ∧
      ((s.muxes (.worker 0)).queue.map Post.command) =
        [registration ⟨1⟩ ⟨0⟩ ⟨⟨0⟩, .localhost 80, .localhost 80, none, none⟩ (.tcpConnect none)] ∧
      ∀ m, ∀ p ∈ (s.muxes m).queue, Agrees [.tcp] p.command := by
  obtain ⟨s, hrun, hqueue⟩ : ∃ s : Node 1,
      Transition.run (step [.tcp]) (connecting (.socket (.localhost 80))) masterConnects = some s ∧
        ((s.muxes (.worker 0)).queue.map Post.command) = [registration ⟨1⟩ ⟨0⟩
          ⟨⟨0⟩, .localhost 80, .localhost 80, none, none⟩ (.tcpConnect none)] := ⟨_, rfl, rfl⟩
  refine ⟨s, hrun, hqueue, payloads_agree [.tcp] ?_⟩
  have hfree : ∀ b ∈ masterConnects, ∀ s : Node 1, s.RegistersNothing b := by
    simp [masterConnects, RegistersNothing]
  exact (reach_connecting trivial rfl).trans (.of_run hfree hrun)

end Node

end MessageIo
