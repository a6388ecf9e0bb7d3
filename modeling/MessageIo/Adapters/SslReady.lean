import MessageIo.Adapters.Ssl
import MessageIo.Network.RemoteSteps

/-!
# When a TLS remote is ready

A remote is ready when its TCP stream is, but an accepted one becomes a TLS connection only
in `receive`, which comes with a read.  So a read makes it ready and a connection in one
go, while a write makes it ready and leaves the acceptor as it is.  A send to such a remote
is unreachable code.

`ready_wrapped` says that this is the only way: as long as no write finds an acceptor
whose stream is ready, remotes that are ready are connections.  `unreachable_of_write` is
the shortest run on which a write does.
-/

namespace MessageIo

namespace Ssl

/-- The stream is not a connection yet. -/
def SslStream.isAcceptor : SslStream → Bool
  | rustlsStreamAcceptor .. => true
  | _ => false

/-! ## What a call leaves of a stream -/

/-- `pending` leaves the stream alone. -/
theorem pending_eq_ok {r r' : RemoteResource} {env : PendingEnv} {status : PendingStatus}
    (h : r.pending env = .ok (status, r')) : status = checkTcpStreamReady env ∧ r' = r := by
  obtain ⟨stream, keepaliveOpt⟩ := r
  cases stream with
  | rustlsStreamAcceptor raw acceptor serverConfig =>
      obtain ⟨_, _, h⟩ := bind_eq_ok.1 h
      cases h
      exact ⟨rfl, rfl⟩
  | rustlsClientConnection sock =>
      cases h
      exact ⟨rfl, rfl⟩
  | rustlsServerConnection sock =>
      cases h
      exact ⟨rfl, rfl⟩

/-- An acceptor does not wait for the next event: it goes on or is gone. -/
theorem receiveTurn_waits {r r' : RemoteResource} {env : ReadEnv} {turn : ReceiveTurn}
    (h : r.receiveTurn env = .ok (turn, r')) (hturn : turn.status = some .waitNextEvent) :
    r'.stream.isAcceptor = false := by
  obtain ⟨stream, keepaliveOpt⟩ := r
  cases stream with
  | rustlsStreamAcceptor rawOpt acceptorOpt serverConfig =>
      obtain ⟨raw, -, h⟩ := bind_eq_ok.1 h
      obtain ⟨acceptor, -, h⟩ := bind_eq_ok.1 h
      cases hwrap : env.wrapStream with
      | ok u =>
          simp only [hwrap] at h
          cases h
          cases hturn
      | error kind =>
          by_cases hkind : kind = .wouldBlock
          · simp only [hwrap, if_pos hkind] at h
            cases h
            cases hturn
          · simp only [hwrap, if_neg hkind] at h
            cases h
            cases hturn
  | rustlsClientConnection sock =>
      cases h
      rfl
  | rustlsServerConnection sock =>
      cases h
      rfl

/-- **A read that waits for the next event leaves a connection.** -/
theorem receive_waits {r r' : RemoteResource} {reads : List ReadEnv}
    (h : (Remote.receive r reads).result = .ok (.waitNextEvent, r')) :
    r'.stream.isAcceptor = false := by
  induction reads generalizing r with
  | nil => cases h
  | cons env reads ih =>
      obtain ⟨⟨turn, r₁⟩, hturn, h⟩ := Proc.result_bind_eq_ok h
      obtain ⟨_, -, h⟩ := Proc.result_bind_eq_ok h
      cases hstatus : turn.status with
      | none =>
          simp only [hstatus] at h
          exact ih h
      | some status =>
          simp only [hstatus] at h
          cases h
          exact receiveTurn_waits hturn hstatus

/-! ## Runs of the driver -/

/-- No write comes to an accepted remote whose TCP stream is ready before a read does. -/
def ReadsFirst (d : SslDriver) : Driver.Call → Prop
  | .write id env => ∀ r, d.remote id = some r → r.properties.ready = false →
      r.resource.stream.isAcceptor = true → checkTcpStreamReady env ≠ .ready
  | _ => True

/-- A remote that is ready is a connection. -/
def Wrapped (r : Register RemoteResource RemoteProperties) : Prop :=
  r.properties.ready = true → r.resource.stream.isAcceptor = false

theorem keeps_wrapped : Driver.Keeps ReadsFirst Wrapped where
  reads hok hr hwrapped hreads hready := by
    cases hreads with
    | unready hresolves hunready =>
        rw [hready] at hunready
        cases hunready
    | waits hresolves _ hreceive => exact receive_waits hreceive
  writes hok hr hwrapped hresolves hready := by
    cases hresolves with
    | wasReady _ => exact hwrapped hready
    | ready hunready hpending =>
        obtain ⟨hstatus, rfl⟩ := pending_eq_ok hpending
        rw [← Bool.not_eq_true]
        intro hacceptor
        exact hok _ hr hunready hacceptor hstatus.symm
    | incomplete hunready hpending =>
        rw [hready] at hunready
        cases hunready
  made _ hready := nomatch hready

/-- A connection can be sent to. -/
theorem send_ne_unreachable {r : RemoteResource} (h : r.stream.isAcceptor = false) (data : Bytes)
    (env : SendEnv) : (r.send data env).result ≠ .error (.panic .unreachable) := by
  have hloop : ∀ sock, (RemoteResource.sendAll sock data env.writes).result ≠
      .error (.panic .unreachable) := by
    intro sock hres
    cases sendLoop_halts sock (Nat.zero_le _) _ _ hres
  obtain ⟨stream, keepaliveOpt⟩ := r
  cases stream with
  | rustlsStreamAcceptor raw acceptor serverConfig => cases h
  | rustlsClientConnection sock => exact hloop sock
  | rustlsServerConnection sock => exact hloop sock

/-- **A TLS remote that is ready is a connection**, and no send to it is unreachable, in every
state that is reached without a write to an acceptor whose stream is ready. -/
theorem ready_wrapped {d : SslDriver} (h : Transition.Reach Driver.step ReadsFirst .new d) :
    (∀ id r, d.remote id = some r → r.properties.ready = true →
      r.resource.stream.isAcceptor = false) ∧
        ∀ endpoint data env,
          (d.call (.send endpoint data env)).result ≠ .error (.panic .unreachable) := by
  have hwrapped := keeps_wrapped.invariant h
  refine ⟨hwrapped, fun endpoint data env hres ↦ ?_⟩
  obtain ⟨y, hsend⟩ : ∃ y, (d.processSend endpoint data env).result = .error y := by
    cases hsend : (d.processSend endpoint data env).result with
    | ok u =>
        rw [Driver.call, Proc.result_bind_ok hsend] at hres
        cases hres
    | error y => exact ⟨y, rfl⟩
  rw [Driver.call, Proc.result_bind_error hsend] at hres
  cases hres
  rcases Driver.processSend_halts hsend with ⟨r, hr, hready, hremote⟩ | ⟨-, l, hlocal⟩
  · exact send_ne_unreachable (hwrapped _ r hr hready) data env hremote
  · cases hlocal

/-- A remote that was accepted, a write that finds its stream ready, and a send. -/
def writeFirst : List Driver.Call :=
  [.acceptRegisterRemote (⟨⟨0x0082000000000001⟩⟩, .localhost 80)
    (⟨⟨0x0002000000000001⟩⟩, .localhost 81)
      ⟨0⟩ (.sslAccept none ⟨0⟩) .fine,
    .write ⟨⟨0x0002000000000001⟩⟩ (.connectedTo (.localhost 81))]

/-- **A write makes an acceptor ready**, and the next send is unreachable. -/
theorem unreachable_of_write : ∃ d : SslDriver,
    Transition.run Driver.step .new writeFirst = some d ∧
      (∃ r, d.remote ⟨⟨0x0002000000000001⟩⟩ = some r ∧ r.properties.ready = true ∧
        r.resource.stream.isAcceptor = true) ∧
          (d.call (.send ⟨⟨⟨0x0002000000000001⟩⟩, .localhost 81⟩ [1] ⟨[], []⟩)).result =
            .error (.panic .unreachable) :=
  ⟨_, rfl, ⟨_, rfl, rfl, rfl⟩, rfl⟩

/-- A read in between makes it a connection. -/
def readFirst : List Driver.Call :=
  [.acceptRegisterRemote (⟨⟨0x0082000000000001⟩⟩, .localhost 80)
    (⟨⟨0x0002000000000001⟩⟩, .localhost 81)
      ⟨0⟩ (.sslAccept none ⟨0⟩) .fine,
    .read ⟨⟨0x0002000000000001⟩⟩ (.connectedTo (.localhost 81))
      [.ofRead (.ok []), .ofRead (.err .wouldBlock)] []]

theorem ready_wrapped_read : ∃ d : SslDriver,
    Transition.run Driver.step .new readFirst = some d ∧
      (∃ r, d.remote ⟨⟨0x0002000000000001⟩⟩ = some r ∧ r.properties.ready = true) ∧
        (∀ id r, d.remote id = some r → r.properties.ready = true →
          r.resource.stream.isAcceptor = false) := by
  obtain ⟨d, hrun, hready⟩ : ∃ d : SslDriver, Transition.run Driver.step .new readFirst = some d ∧
      ∃ r, d.remote ⟨⟨0x0002000000000001⟩⟩ = some r ∧ r.properties.ready = true :=
    ⟨_, rfl, _, rfl, rfl⟩
  refine ⟨d, hrun, hready, (ready_wrapped (.of_run ?_ hrun)).1⟩
  simp [readFirst, ReadsFirst]

end Ssl

end MessageIo
