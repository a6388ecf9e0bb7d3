import MessageIo.Adapters.Ws
import MessageIo.Network.RemoteSteps

/-!
# The states of a web socket remote

`pending` takes the handshake out of a remote and puts something back on every path: the
handshake as it was, the one that goes on, a web socket, or an error with the stream.  What
it answers tells the driver what to do with the remote, and both agree: a remote that is
ready is a web socket, and one with an error is gone when the call returns.

So in every run no state is met in which `receive`, `send`, `pending` or `source` has
nothing to do (`states_of_remotes`).
-/

namespace MessageIo

namespace Ws

/-- A web socket, or in a handshake that is not taken. -/
def RemoteState.Settled : RemoteState → Prop
  | webSocket _ => True
  | handshake pending => pending.isSome
  | error _ => False

/-- **What holds of a register between two calls.** -/
structure Sound (r : Register RemoteResource RemoteProperties) : Prop where
  settled : r.resource.state.Settled
  ready : r.properties.ready = true → ∃ stream, r.resource.state = .webSocket stream

/-! ## What `pending` puts back -/

/-- What the answer of `pending` says of the state it leaves. -/
def Left : PendingStatus → RemoteState → Prop
  | .ready, state => ∃ stream, state = .webSocket stream
  | .incomplete, state => ∃ pending, state = .handshake (some pending)
  | .disconnected, state =>
      (∃ stream, state = .error stream) ∨ ∃ pending, state = .handshake (some pending)

theorem left_handshaked (resume : PendingHandshake) (call : HandshakeCall) :
    Left (RemoteResource.handshaked resume call).1 (RemoteResource.handshaked resume call).2 := by
  cases call with
  | done => exact ⟨_, rfl⟩
  | interrupted => exact ⟨_, rfl⟩
  | failure => exact .inl ⟨_, rfl⟩

/-- A step of the handshake that is taken. -/
theorem left_pending {env : PendingEnv} {p : PendingHandshake}
    {keepaliveOpt : Option TcpKeepalive} :
    ∃ status state, RemoteResource.pending ⟨.handshake (some p), keepaliveOpt⟩ env =
      .ok (status, ⟨state, keepaliveOpt⟩) ∧ Left status state := by
  cases p with
  | connect url stream =>
      by_cases hready : checkTcpStreamReady env ≠ .ready
      · refine ⟨checkTcpStreamReady env, .handshake (some (.connect url stream)), ?_, ?_⟩
        · simp only [RemoteResource.pending, unwrapOpt, if_pos hready]
          rfl
        · cases hstatus : checkTcpStreamReady env with
          | ready => exact absurd hstatus hready
          | incomplete => exact ⟨_, rfl⟩
          | disconnected => exact .inr ⟨_, rfl⟩
      · refine ⟨_, _, ?_, left_handshaked (.client stream) env.handshake⟩
        simp only [RemoteResource.pending, unwrapOpt, if_neg hready]
        rfl
  | accept stream => exact ⟨_, _, rfl, left_handshaked (.server stream) env.handshake⟩
  | client stream => exact ⟨_, _, rfl, left_handshaked (.client stream) env.handshake⟩
  | server stream => exact ⟨_, _, rfl, left_handshaked (.server stream) env.handshake⟩

/-- **`pending` answers**, and its answer fits what it leaves. -/
theorem Sound.pending {r : Register RemoteResource RemoteProperties} (h : Sound r)
    (env : PendingEnv) :
    ∃ status resource, r.resource.pending env = .ok (status, resource) ∧
      Left status resource.state := by
  obtain ⟨⟨state, keepaliveOpt⟩, properties⟩ := r
  cases state with
  | webSocket stream => exact ⟨_, _, rfl, stream, rfl⟩
  | error stream => exact h.settled.elim
  | handshake pending =>
      obtain ⟨p, rfl⟩ := Option.isSome_iff_exists.1 h.settled
      obtain ⟨status, state, hpending, hleft⟩ := left_pending (p := p)
      exact ⟨status, _, hpending, hleft⟩

/-- The stream of a settled remote is at hand. -/
theorem Sound.source {r : Register RemoteResource RemoteProperties} (h : Sound r) :
    ∃ stream, r.resource.source = .ok stream := by
  obtain ⟨⟨state, keepaliveOpt⟩, properties⟩ := r
  cases state with
  | webSocket stream => exact ⟨stream, rfl⟩
  | error stream => exact h.settled.elim
  | handshake pending =>
      obtain ⟨p, rfl⟩ := Option.isSome_iff_exists.1 h.settled
      exact ⟨p.stream, rfl⟩

/-- **The front of a poll event** leaves a sound remote, or one that is gone. -/
theorem Sound.resolves {env : PendingEnv} {r r' : Register RemoteResource RemoteProperties}
    {there : Bool} (h : Sound r) (hresolves : Driver.Resolves env r r' there) :
    (there = true → Sound r') ∧ ∃ stream, r'.resource.source = .ok stream := by
  have hpending : ∀ {status resource}, Remote.pending r.resource env = .ok (status, resource) →
      Left status resource.state := by
    intro status resource hok
    obtain ⟨status', resource', hok', hleft⟩ := h.pending env
    cases hok.symm.trans hok'
    exact hleft
  cases hresolves with
  | wasReady _ => exact ⟨fun _ ↦ h, h.source⟩
  | @ready resource _ hok =>
      obtain ⟨stream, hstate⟩ := hpending hok
      have hsound : Sound ⟨resource, r.properties.markAsReady⟩ :=
        ⟨by rw [hstate]; trivial, fun _ ↦ ⟨stream, hstate⟩⟩
      exact ⟨fun _ ↦ hsound, hsound.source⟩
  | @incomplete resource hunready hok =>
      obtain ⟨p, hstate⟩ := hpending hok
      have hsound : Sound ⟨resource, r.properties⟩ :=
        ⟨by rw [hstate]; rfl, fun hready ↦ by rw [hunready] at hready; cases hready⟩
      exact ⟨fun _ ↦ hsound, hsound.source⟩
  | @disconnected resource _ hok =>
      refine ⟨nofun, ?_⟩
      obtain ⟨state, keepaliveOpt⟩ := resource
      rcases hpending hok with ⟨stream, rfl⟩ | ⟨p, rfl⟩
      · exact ⟨stream, rfl⟩
      · exact ⟨p.stream, rfl⟩

/-! ## Reading and sending -/

/-- A web socket is read, and stays what it is. -/
theorem receiveTurn_webSocket {r : RemoteResource} {stream : TcpStream}
    (h : r.state = .webSocket stream) (env : ReadEnv) :
    ∃ turn, r.receiveTurn env = .ok (turn, r) := by
  obtain ⟨read, wrapStream, wsRead, peek⟩ := env
  rw [RemoteResource.receiveTurn, h]
  cases wsRead with
  | binary data => cases peek <;> exact ⟨_, rfl⟩
  | _ => exact ⟨_, rfl⟩

theorem receive_webSocket {r : RemoteResource} {stream : TcpStream}
    (h : r.state = .webSocket stream) (reads : List ReadEnv) :
    (Remote.receive r reads).Satisfies (fun _ ↦ True) (fun out ↦ out.2 = r) (· = .running) := by
  induction reads with
  | nil => exact .of_halt rfl
  | cons env reads ih =>
      obtain ⟨turn, hturn⟩ := receiveTurn_webSocket h env
      refine Proc.Satisfies.bind (Q := fun out ↦ out = (turn, r)) (.of_ofExcept ?_ ?_) ?_
      · intro out hout
        cases hturn.symm.trans hout
        rfl
      · intro x hx
        cases hturn.symm.trans hx
      · rintro _ rfl
        refine Proc.Satisfies.bind (Q := fun _ ↦ True) (.of_perform (fun _ _ ↦ trivial) trivial)
          fun _ _ ↦ ?_
        cases turn.status with
        | none => exact ih
        | some status => exact .of_pure rfl

theorem send_webSocket {r : RemoteResource} {stream : TcpStream} (h : r.state = .webSocket stream)
    (data : Bytes) (env : SendEnv) {x : Halt} (hx : (r.send data env).result = .error x) :
    x = .running := by
  have hloop : ∀ calls : List WsSendCall, (RemoteResource.sendLoop calls).result = .error x →
      x = .running := by
    intro calls hcalls
    induction calls with
    | nil =>
        cases hcalls
        rfl
    | cons call calls ih =>
        cases call with
        | ok => cases hcalls
        | capacity => cases hcalls
        | err => cases hcalls
        | ioErr kind =>
            cases kind with
            | wouldBlock => exact ih hcalls
            | _ => cases hcalls
  rw [RemoteResource.send, h] at hx
  exact hloop _ hx

/-! ## Runs of the driver -/

theorem Sound.reads {env : PendingEnv} {reads : List ReadEnv}
    {r r' : Register RemoteResource RemoteProperties} {data : List Bytes} {there : Bool}
    (h : Sound r) (hreads : Driver.Reads env reads r data r' there) :
    (there = true → Sound r') ∧ ∃ stream, r'.resource.source = .ok stream := by
  cases hreads with
  | unready hresolves _ => exact h.resolves hresolves
  | waits hresolves hready hreceive =>
      have hsound := (h.resolves hresolves).1 rfl
      obtain ⟨stream, hstate⟩ := hsound.ready hready
      obtain rfl := (receive_webSocket hstate reads).returns _ hreceive
      exact ⟨fun _ ↦ hsound, hsound.source⟩
  | leaves hresolves hready hreceive =>
      have hsound := (h.resolves hresolves).1 rfl
      obtain ⟨stream, hstate⟩ := hsound.ready hready
      obtain rfl := (receive_webSocket hstate reads).returns _ hreceive
      exact ⟨nofun, hsound.source⟩

theorem keeps_sound : Driver.Keeps (fun (_ : WsDriver) _ ↦ True) Sound where
  reads _ _ h hreads := (h.reads hreads).1 rfl
  writes _ _ h hresolves := (h.resolves hresolves).1 rfl
  made {c resource addr localId} hmade := by
    refine ⟨?_, nofun⟩
    cases c with
    | acceptRegisterRemote localPair remotePair stream payload env =>
        cases payload <;> cases hmade
        rfl
    | connectRegisterRemote localAddr remotePair stream payload cb env =>
        cases payload <;> cases hmade
        rfl
    | _ => cases hmade

/-- A call about remotes: not one that sets up a listener, a connection or a registration, which
may fail for reasons of their own. -/
def AboutRemotes : Driver.Call → Prop
  | .read id _ _ _ => id.resourceType = .remote
  | .write _ _ => True
  | .send endpoint _ _ => endpoint.resourceId.resourceType = .remote
  | .close _ => True
  | .isReady _ _ => True
  | _ => False

/-- **The states of web socket remotes**, in every state of the driver that is reached by any
calls with any answers.  Between two calls a remote is a web socket or in a handshake, and a
web socket if it is ready; the call that leaves it in an error drops it; the stream of a
register is at hand as long as it is there and when it is dropped; and a call about remotes
that does not return is still reading or sending. -/
theorem states_of_remotes {d : WsDriver}
    (h : Transition.Reach Driver.step (fun _ _ ↦ True) .new d) :
    (∀ id r, d.remote id = some r →
      ((∃ stream, r.resource.state = .webSocket stream) ∨
          ∃ pending, r.resource.state = .handshake (some pending)) ∧
        (r.properties.ready = true → ∃ stream, r.resource.state = .webSocket stream) ∧
        (∃ stream, r.resource.source = .ok stream) ∧
        ∀ env r' there, Driver.Resolves env r r' there →
          (∃ stream, r'.resource.state = .error stream) → there = false) ∧
      (∀ c r, Driver.Drops d c r → ∃ stream, r.resource.source = .ok stream) ∧
        ∀ c, AboutRemotes c → ∀ x, (d.call c).result = .error x → x = .running := by
  have hsound := keeps_sound.invariant h
  refine ⟨fun id r hr ↦ ?_, fun c r hdrops ↦ ?_, fun c hc x hx ↦ ?_⟩
  · have hr := hsound id r hr
    refine ⟨?_, hr.ready, hr.source, fun env r' there hresolves herror ↦ ?_⟩
    · have hsettled := hr.settled
      cases hstate : r.resource.state with
      | webSocket stream => exact .inl ⟨stream, rfl⟩
      | handshake pending =>
          rw [hstate] at hsettled
          obtain ⟨p, rfl⟩ := Option.isSome_iff_exists.1 hsettled
          exact .inr ⟨p, rfl⟩
      | error stream =>
          rw [hstate] at hsettled
          exact hsettled.elim
    · rw [← Bool.not_eq_true]
      intro hthere
      obtain ⟨stream, hstate⟩ := herror
      have hsettled := ((hr.resolves hresolves).1 hthere).settled
      rw [hstate] at hsettled
      exact hsettled
  · cases hdrops with
    | read hr hreads => exact ((hsound _ _ hr).reads hreads).2
    | write hr hresolves => exact ((hsound _ _ hr).resolves hresolves).2
    | close hr => exact (hsound _ _ hr).source
    | replaced hc hr => exact (hsound _ _ hr).source
  · have hpending : ∀ {id r env}, d.remote id = some r →
        Remote.pending r.resource env = .error x → x = .running := by
      intro id r env hr hx
      obtain ⟨status, resource, hok, -⟩ := (hsound id r hr).pending env
      cases hok.symm.trans hx
    cases c with
    | read id env reads accepts =>
        obtain ⟨r, hr, ⟨-, hx⟩ | ⟨r', hresolves, hready, hx⟩⟩ := Driver.processRead_halts hc hx
        · exact hpending hr hx
        · obtain ⟨stream, hstate⟩ := (((hsound id r hr).resolves hresolves).1 rfl).ready hready
          exact (receive_webSocket hstate reads).halts x hx
    | write id env =>
        obtain ⟨r, hr, -, hx⟩ := Driver.processWrite_halts hx
        exact hpending hr hx
    | send endpoint data env =>
        rcases Proc.result_bind_eq_error hx with hx | ⟨_, -, hx⟩
        · rcases Driver.processSend_halts hx with ⟨r, hr, hready, hx⟩ | ⟨hlocal, -⟩
          · obtain ⟨stream, hstate⟩ := (hsound _ r hr).ready hready
            exact send_webSocket hstate data env hx
          · rw [show endpoint.resourceId.resourceType = .remote from hc] at hlocal
            cases hlocal
        · cases hx
    | close id => cases hx
    | isReady id cb => cases hx
    | _ => exact hc.elim

/-- A handshake that is interrupted once, and a remote whose handshake fails. -/
def handshakes : List Driver.Call :=
  [.acceptRegisterRemote (⟨⟨0x0083000000000001⟩⟩, .localhost 80)
    (⟨⟨0x0003000000000001⟩⟩, .localhost 81)
      ⟨0⟩ (.wsAccept none) .fine,
    .acceptRegisterRemote (⟨⟨0x0083000000000001⟩⟩, .localhost 80)
      (⟨⟨0x0003000000000002⟩⟩, .localhost 82)
      ⟨1⟩ (.wsAccept none) .fine,
    .read ⟨⟨0x0003000000000001⟩⟩ ⟨.ok none, .ok (.localhost 81), .interrupted⟩ [] [],
    .write ⟨⟨0x0003000000000002⟩⟩ ⟨.ok none, .ok (.localhost 82), .failure⟩,
    .write ⟨⟨0x0003000000000001⟩⟩ ⟨.ok none, .ok (.localhost 81), .done⟩]

theorem states_of_remotes_handshakes : ∃ d : WsDriver,
    Transition.run Driver.step .new handshakes = some d ∧
      d.remote ⟨⟨0x0003000000000002⟩⟩ = none ∧
        (∃ r, d.remote ⟨⟨0x0003000000000001⟩⟩ = some r ∧ r.properties.ready = true) ∧
          ∀ id r, d.remote id = some r → r.properties.ready = true →
            ∃ stream, r.resource.state = .webSocket stream := by
  obtain ⟨d, hrun, hnone, hready⟩ : ∃ d : WsDriver,
      Transition.run Driver.step .new handshakes = some d ∧
        d.remote ⟨⟨0x0003000000000002⟩⟩ = none ∧
          ∃ r, d.remote ⟨⟨0x0003000000000001⟩⟩ = some r ∧ r.properties.ready = true :=
    ⟨_, rfl, rfl, _, rfl, rfl⟩
  refine ⟨d, hrun, hnone, hready, fun id r hr ↦ ?_⟩
  exact ((states_of_remotes (.of_run (fun _ _ _ ↦ trivial) hrun)).1 id r hr).2.1

end Ws

end MessageIo
