import MessageIo.Adapters.Ws
import MessageIo.Network.RemoteSteps
import MessageIo.Protocol.Stranded

/-!
# A WebSocket remote and its buffer of input (`ws_adapter.rs`, `ws_driver.rs`)

The driver, and beside it the web socket of each remote with what its socket has to read.  What
`receive` is told of a web socket is what `read` and `peek` make of these.

`receive` does not call `read` again if the socket has nothing more, although the buffer of the
codec may hold the next message already; and a handshake that ends in `process_write` may have
received messages which nothing reads.  `nothing_stranded` says that these are the only ways in
which a frame is left behind.
-/

namespace MessageIo

namespace Ws

/-! ## A remote -/

/-- What is answered in one turn of `receive`, but for what is read. -/
structure TurnAnswers where
  writes : List WriteCall
  flushes : List (Except ErrorKind Unit)
  masks : List Mask
  /-- A look at the socket when it has something to read. -/
  peek : Except ErrorKind Unit
  peek_ne : peek ≠ .error .wouldBlock

/-- What is answered during a handshake: how much of what there is to be read it takes, and which
part of that comes behind the head. -/
structure HandshakeAnswers where
  taken : Nat
  tail : Bytes

/-- The web socket of a remote, and what the next reads of its socket bring until it would block.
What arrives while the remote is read can be thought to be there before, if it is read at all. -/
structure Connection where
  web : WebSocket
  kernel : List ReadCall

/-- The web socket after a handshake.  A server that has received more than the head refuses it. -/
def PendingHandshake.webSocket (tail : Bytes) : PendingHandshake → WebSocket
  | connect _ _ | client _ => { WebSocket.fresh .client ⟨[], [], [], []⟩ with
      context.frame.inBuffer := tail }
  | accept _ | server _ => .fresh .server ⟨[], [], [], []⟩

/-- It is the one that the handshakes of the source make. -/
theorem PendingHandshake.webSocket_client (stream : TcpStream) (tail : Bytes) :
    WebSocket.fromPartiallyRead (.new ⟨[], [], [], []⟩) tail .client none =
      .ok ((client stream).webSocket tail) := rfl

theorem PendingHandshake.webSocket_server (stream : TcpStream) (tail : Bytes) :
    WebSocket.fromRawSocket (.new ⟨[], [], [], []⟩) .server none =
      .ok ((server stream).webSocket tail) := rfl

/-- What `receive` is told of a call of `read`, if the call returns. -/
def readCall : Except Error Message → Option WsReadCall
  | .ok (.binary data) => some (.binary data)
  | .ok (.close _) => some .close
  | .ok _ => some .other
  | .error (.io kind) => some (.ioErr kind)
  | .error (.halt _) => none
  | .error _ => some .err

/-- What `send` is told of its calls. -/
def sendCall : Except Error Unit → Option WsSendCall
  | .ok () => some .ok
  | .error (.io kind) => some (.ioErr kind)
  | .error (.messageTooLong _ _) => some .capacity
  | .error (.halt _) => none
  | .error _ => some .err

/-- The loop of `receive` ends with this turn. -/
def stops (env : ReadEnv) : Bool :=
  match env.wsRead, env.peek with
  | .binary _, .ok () => false
  | .other, _ => false
  | _, _ => true

namespace Connection

variable (u : Utf8Crate)

/-- A look at the socket fails with `WouldBlock` exactly if there is nothing to read. -/
def peek (c : Connection) (a : TurnAnswers) : Except ErrorKind Unit :=
  if c.kernel = [] then .error .wouldBlock else a.peek

/-- `read` is called, and the socket looked at. -/
def turn (a : TurnAnswers) (c : Connection) : Option (ReadEnv × Connection) :=
  let out := (WebSocket.read u).attempt (c.web.answered ⟨c.kernel, a.writes, a.flushes, a.masks⟩)
  let c : Connection := ⟨out.2, out.2.socket.answers.reads⟩
  (readCall out.1).map fun call ↦ (⟨.err .wouldBlock, .ok (), call, c.peek a⟩, c)

/-- The turns of `receive`. -/
def turns : List TurnAnswers → Connection → Option (List ReadEnv × Connection)
  | [], c => some ([], c)
  | a :: as, c => do
      let (env, c) ← c.turn u a
      if stops env then return ([env], c)
      else
        let (envs, c) ← turns as c
        return (env :: envs, c)

/-- The calls of `send`: after the first one, a message that would block is flushed. -/
def sends (result : Except Error Unit) (w : WebSocket) :
    List Answers → Option (List WsSendCall × WebSocket)
  | [] => do
      let call ← sendCall result
      return ([call], w)
  | a :: as => do
      let call ← sendCall result
      if call ≠ .ioErr .wouldBlock then return ([call], w)
      else
        let out := WebSocket.flush.attempt (w.answered a)
        let (calls, w) ← sends out.1 out.2 as
        return (call :: calls, w)

/-- **A frame is stranded** in what there is to be read. -/
def StrandsFrame (c : Connection) : Prop :=
  Strands c.web.maxSize c.web.receiving c.web.context.frame c.kernel

/-- The codec holds a whole frame. -/
def holdsFrame (c : Connection) : Bool := c.web.context.frame.holdsFrame

end Connection

/-! ## The front of a poll event -/

/-- The remote is ready, or becomes so. -/
def becomesReady (r : Register RemoteResource RemoteProperties) (env : PendingEnv) : Bool :=
  r.properties.ready || match r.resource.pending env with
    | .ok (.ready, _) => true
    | _ => false

/-- What the front of a poll event leaves of the connection of a remote. -/
def front (r : Register RemoteResource RemoteProperties) (env : PendingEnv) (hs : HandshakeAnswers)
    (c : Connection) : Connection :=
  if r.properties.ready then c
  else
    match r.resource.state, r.resource.pending env with
    | .handshake (some pending), .ok (.ready, _) =>
        ⟨pending.webSocket hs.tail, c.kernel.drop hs.taken⟩
    | _, _ => ⟨c.web, c.kernel.drop hs.taken⟩

/-! ## The driver and the remotes -/

structure World where
  driver : WsDriver
  connections : ResourceId → Connection

/-- What happens: bytes arrive, the driver is given an event of the poll, or another call. -/
inductive Event where
  | arrive (id : ResourceId) (reads : List ReadCall)
  | read (id : ResourceId) (env : PendingEnv) (hs : HandshakeAnswers) (answers : List TurnAnswers)
      (accepts : List AcceptEnv)
  | write (id : ResourceId) (env : PendingEnv) (hs : HandshakeAnswers)
  | send (endpoint : Endpoint) (data : Bytes) (first : Answers) (more : List Answers)
  | command (c : Driver.Call)

/-- A call that is no event of the poll, and does not write to a web socket. -/
def isCommand : Driver.Call → Bool
  | .read .. | .write .. | .send .. => false
  | _ => true

namespace World

/-- Nothing is registered. -/
def new (connections : ResourceId → Connection) : World := ⟨.new, connections⟩

def become (w : World) (d : WsDriver) (id : ResourceId) (c : Connection) : World :=
  ⟨d, Function.update w.connections id c⟩

/-- A call of the driver, if it returns. -/
def call (w : World) (c : Driver.Call) : Option WsDriver := (w.driver.call c).result.toOption

/-- The remote that an event of the poll is about. -/
def polled (w : World) (id : ResourceId) : Option (Register RemoteResource RemoteProperties) :=
  match id.resourceType with
  | .remote => w.driver.remote id
  | .local => none

/-- The remote that a message is sent to. -/
def sendsTo (w : World) (id : ResourceId) : Bool :=
  (w.polled id).any fun r ↦ r.properties.ready

def step (u : Utf8Crate) (w : World) : Event → Option World
  | .arrive id reads =>
      let c := w.connections id
      some (w.become w.driver id ⟨c.web, c.kernel ++ reads⟩)
  | .read id env hs answers accepts =>
      match w.polled id with
      | some r =>
          if becomesReady r env then do
            let (envs, c) ← (front r env hs (w.connections id)).turns u answers
            let d ← w.call (.read id env envs accepts)
            return w.become d id c
          else do
            let d ← w.call (.read id env [] accepts)
            return w.become d id (front r env hs (w.connections id))
      | none => do
          let d ← w.call (.read id env [] accepts)
          return { w with driver := d }
  | .write id env hs => do
      let d ← w.call (.write id env)
      match w.polled id with
      | some r => return w.become d id (front r env hs (w.connections id))
      | none => return { w with driver := d }
  | .send endpoint data first more =>
      let c := w.connections endpoint.resourceId
      if w.sendsTo endpoint.resourceId then do
        let out := (WebSocket.send (.binary data)).attempt (c.web.answered first)
        let (calls, web) ← Connection.sends out.1 out.2 more
        let d ← w.call (.send endpoint data ⟨[], calls⟩)
        return w.become d endpoint.resourceId ⟨web, c.kernel⟩
      else do
        let d ← w.call (.send endpoint data ⟨[], []⟩)
        return { w with driver := d }
  | .command c =>
      if isCommand c then do
        let d ← w.call c
        return { w with driver := d }
      else none

/-- **Nothing is stranded by an event**: a remote that is read has no frame stranded in what there
is to be read, and a handshake that ends in a write leaves no frame to be read. -/
def Clears (w : World) : Event → Prop
  | .read id env hs _ _ => ∀ r, w.polled id = some r → becomesReady r env = true →
      ¬ (front r env hs (w.connections id)).StrandsFrame
  | .write id env hs => ∀ r, w.polled id = some r → r.properties.ready = false →
      becomesReady r env = true → (front r env hs (w.connections id)).holdsFrame = false
  | _ => True

end World

/-! ## Turns -/

section

variable {u : Utf8Crate} {a : TurnAnswers} {answers : List TurnAnswers} {c c' : Connection}
  {env : ReadEnv} {envs : List ReadEnv} {r r' : RemoteResource}

/-- What a turn of `receive` is told, and the status it ends with, if it is the last one. -/
inductive Turned (env : ReadEnv) : Option ReadStatus → Prop
  | message {data : Bytes} (hread : env.wsRead = .binary data) (hpeek : env.peek = .ok ()) :
      Turned env none
  | peeked {data : Bytes} {kind : ErrorKind} (hread : env.wsRead = .binary data)
      (hpeek : env.peek = .error kind) :
      Turned env (some (RemoteResource.ioErrorToReadStatus kind))
  | close (hread : env.wsRead = .close) : Turned env (some .disconnected)
  | other (hread : env.wsRead = .other) : Turned env none
  | ioErr {kind : ErrorKind} (hread : env.wsRead = .ioErr kind) :
      Turned env (some (RemoteResource.ioErrorToReadStatus kind))
  | err (hread : env.wsRead = .err) : Turned env (some .disconnected)

theorem turned_receiveTurn {turn : ReceiveTurn} (h : Remote.receiveTurn r env = .ok (turn, r')) :
    Turned env turn.status := by
  obtain ⟨state, keepaliveOpt⟩ := r
  cases state with
  | handshake pending => cases h
  | error stream => cases h
  | webSocket stream =>
      change RemoteResource.receiveTurn _ env = _ at h
      rw [RemoteResource.receiveTurn] at h
      cases hread : env.wsRead with
      | binary data =>
          simp only [hread] at h
          cases hpeek : env.peek with
          | ok _ =>
              simp only [hpeek] at h
              cases h
              exact .message hread hpeek
          | error kind =>
              simp only [hpeek] at h
              cases h
              exact .peeked hread hpeek
      | close =>
          simp only [hread] at h
          cases h
          exact .close hread
      | other =>
          simp only [hread] at h
          cases h
          exact .other hread
      | ioErr kind =>
          simp only [hread] at h
          cases h
          exact .ioErr hread
      | err =>
          simp only [hread] at h
          cases h
          exact .err hread

/-- A turn of `receive` is the last one if its answers say so. -/
theorem status_receiveTurn {turn : ReceiveTurn} (h : Remote.receiveTurn r env = .ok (turn, r')) :
    turn.status.isSome = stops env := by
  have hturned := turned_receiveTurn h
  generalize turn.status = status at hturned
  cases hturned with
  | message hread hpeek => simp only [stops, hread, hpeek, Option.isSome_none]
  | peeked hread hpeek => simp only [stops, hread, hpeek, Option.isSome_some]
  | close hread => simp only [stops, hread, Option.isSome_some]
  | other hread => simp only [stops, hread, Option.isSome_none]
  | ioErr hread => simp only [stops, hread, Option.isSome_some]
  | err hread => simp only [stops, hread, Option.isSome_some]

/-- A turn after which `receive` waits: the socket has nothing more to read. -/
theorem waits_receiveTurn {turn : ReceiveTurn} (h : Remote.receiveTurn r env = .ok (turn, r'))
    (hwaits : turn.status = some .waitNextEvent) :
    (∃ data, env.wsRead = .binary data ∧ env.peek = .error .wouldBlock) ∨
      env.wsRead = .ioErr .wouldBlock := by
  have hkind : ∀ kind, RemoteResource.ioErrorToReadStatus kind = .waitNextEvent →
      kind = .wouldBlock := by
    intro kind hstatus
    by_contra hne
    rw [RemoteResource.ioErrorToReadStatus, if_neg hne] at hstatus
    cases hstatus
  have hturned := turned_receiveTurn h
  rw [hwaits] at hturned
  generalize hstatus : some ReadStatus.waitNextEvent = status at hturned
  cases hturned with
  | peeked hread hpeek =>
      exact .inl ⟨_, hread, hpeek.trans (congrArg _ (hkind _ (Option.some.inj hstatus).symm))⟩
  | ioErr hread => exact .inr (hread.trans (congrArg _ (hkind _ (Option.some.inj hstatus).symm)))
  | message | close | other | err => cases hstatus

/-- What `receive` is told of a message. -/
theorem readCall_ok {message : Message} {call : WsReadCall}
    (h : readCall (.ok message) = some call) :
    call ≠ .ioErr .wouldBlock ∧ (call = .close ↔ ∃ code, message = .close code) ∧
      ∀ data, call = .binary data → message = .binary data := by
  cases message with
  | binary data =>
      cases h
      refine ⟨nofun, ⟨nofun, nofun⟩, ?_⟩
      rintro _ ⟨⟩
      rfl
  | close code =>
      cases h
      exact ⟨nofun, ⟨fun _ ↦ ⟨code, rfl⟩, fun _ ↦ rfl⟩, nofun⟩
  | text | ping | pong | frame =>
      cases h
      exact ⟨nofun, ⟨nofun, nofun⟩, nofun⟩

/-- What `receive` is told of an error. -/
theorem readCall_error {e : Error} {call : WsReadCall} (h : readCall (.error e) = some call) :
    (∃ kind, e = .io kind ∧ call = .ioErr kind) ∨ call = .err := by
  cases e with
  | io kind =>
      cases h
      exact .inl ⟨kind, rfl, rfl⟩
  | halt x => cases h
  | _ =>
      cases h
      exact .inr rfl

/-- What a turn leaves, if nothing is stranded. -/
structure TurnLeaves (env : ReadEnv) (c : Connection) : Prop where
  goesOn : stops env = false → ¬ c.StrandsFrame
  blocked : env.wsRead = .ioErr .wouldBlock → c.holdsFrame = false
  drained : ∀ data, env.wsRead = .binary data → env.peek = .error .wouldBlock →
    c.holdsFrame = false

theorem leaves_turn (h : ¬ c.StrandsFrame) (hturn : c.turn u a = some (env, c')) :
    TurnLeaves env c' := by
  have hleaves := WebSocket.leaves_read (u := u)
    (w := c.web.answered ⟨c.kernel, a.writes, a.flushes, a.masks⟩) h
  rw [EStateM.Ensures] at hleaves
  rw [Connection.turn] at hturn
  generalize (WebSocket.read u).attempt
    (c.web.answered ⟨c.kernel, a.writes, a.flushes, a.masks⟩) = out at hleaves hturn
  obtain ⟨result, web⟩ := out
  obtain ⟨call, hcall, hout⟩ := Option.map_eq_some_iff.1 hturn
  cases hout
  cases result with
  | ok message =>
      obtain ⟨hne, hclose, hbinary⟩ := readCall_ok hcall
      refine ⟨fun hstops ↦ hleaves.goesOn (some message) rfl ?_, fun h ↦ absurd h hne, ?_⟩
      · rintro code ⟨⟩
        obtain rfl := hclose.2 ⟨code, rfl⟩
        cases hstops
      · intro data hread hpeek
        obtain rfl := hbinary data hread
        refine hleaves.drained data rfl ?_
        by_contra hkernel
        have hpeek' : a.peek = .error .wouldBlock := (if_neg hkernel).symm.trans hpeek
        exact a.peek_ne hpeek'
  | error e =>
      rcases readCall_error hcall with ⟨kind, rfl, rfl⟩ | rfl
      · constructor
        · rintro ⟨⟩
        · rintro ⟨⟩
          exact hleaves.blocked rfl
        · rintro data ⟨⟩
      · constructor
        · rintro ⟨⟩
        · rintro ⟨⟩
        · rintro data ⟨⟩

/-- **When `receive` waits for the next event, no frame is left behind**, if none was stranded in
what there was to be read. -/
theorem holdsFrame_of_waits (h : ¬ c.StrandsFrame)
    (hturns : c.turns u answers = some (envs, c'))
    (hreceive : (Remote.receive r envs).result = .ok (.waitNextEvent, r')) :
    c'.holdsFrame = false := by
  induction answers generalizing c r envs with
  | nil =>
      cases hturns
      cases hreceive
  | cons a answers ih =>
      obtain ⟨⟨env, c₁⟩, hturn, hturns⟩ := Option.bind_eq_some_iff.1 hturns
      have hleaves := leaves_turn h hturn
      cases hstops : stops env with
      | true =>
          simp only [hstops, if_true] at hturns
          cases hturns
          obtain ⟨⟨turn, r₁⟩, hr₁, -⟩ := Proc.result_bind_eq_ok hreceive
          rw [Remote.result_receive hr₁] at hreceive
          have hstatus := status_receiveTurn hr₁
          rw [hstops] at hstatus
          obtain ⟨status, hstatus⟩ := Option.isSome_iff_exists.1 hstatus
          simp only [hstatus] at hreceive
          cases hreceive
          rcases waits_receiveTurn hr₁ hstatus with ⟨data, hread, hpeek⟩ | hread
          · exact hleaves.drained data hread hpeek
          · exact hleaves.blocked hread
      | false =>
          simp only [hstops, Bool.false_eq_true, if_false] at hturns
          obtain ⟨⟨envs', c₂⟩, hrest, hturns⟩ := Option.bind_eq_some_iff.1 hturns
          cases hturns
          obtain ⟨⟨turn, r₁⟩, hr₁, -⟩ := Proc.result_bind_eq_ok hreceive
          rw [Remote.result_receive hr₁] at hreceive
          have hstatus := status_receiveTurn hr₁
          rw [hstops] at hstatus
          rw [Option.isSome_eq_false_iff, Option.isNone_iff_eq_none] at hstatus
          simp only [hstatus] at hreceive
          exact ih (hleaves.goesOn hstops) hrest hreceive

/-- What is sent leaves the input of a web socket alone. -/
theorem sameInput_sends {result : Except Error Unit} {w w' : WebSocket} {more : List Answers}
    {calls : List WsSendCall} (h : Connection.sends result w more = some (calls, w')) :
    w.context.frame.SameInput w'.context.frame := by
  induction more generalizing result w calls with
  | nil =>
      obtain ⟨call, -, h⟩ := Option.bind_eq_some_iff.1 h
      cases h
      exact ⟨rfl, rfl⟩
  | cons a more ih =>
      obtain ⟨call, -, h⟩ := Option.bind_eq_some_iff.1 h
      split at h
      · cases h
        exact ⟨rfl, rfl⟩
      · obtain ⟨⟨calls', w₁⟩, hrest, h⟩ := Option.bind_eq_some_iff.1 h
        cases h
        have hflushed := (WebSocket.flushes_flush (w.answered a)).1.input
        have hsame := ih hrest
        exact ⟨hsame.inBuffer.trans (congrArg WebSocket.Input.inBuffer hflushed),
          hsame.header.trans (congrArg WebSocket.Input.header hflushed)⟩

/-! ## Events -/

/-- Whether a remote is ready behind the front of a poll event. -/
theorem becomesReady_eq {env : PendingEnv} {r r' : Register RemoteResource RemoteProperties}
    {there : Bool} (h : Driver.Resolves env r r' there) :
    becomesReady r env = r'.properties.ready := by
  have hpending : ∀ {status : PendingStatus} {resource : RemoteResource},
      r.properties.ready = false → Remote.pending r.resource env = .ok (status, resource) →
        becomesReady r env = decide (status = .ready) := by
    intro status resource hready hpending
    change r.resource.pending env = _ at hpending
    rw [becomesReady, hready, hpending]
    cases status <;> rfl
  cases h with
  | wasReady hready =>
      rw [becomesReady, hready]
      rfl
  | ready hready hstatus =>
      rw [hpending hready hstatus]
      rfl
  | incomplete hready hstatus =>
      rw [hpending hready hstatus, hready]
      rfl
  | disconnected hready hstatus =>
      rw [hpending hready hstatus, hready]
      rfl

namespace World

variable {w w' : World} {d : WsDriver} {id : ResourceId}

/-- **The invariant**: no remote that is ready holds a frame. -/
def Settled (w : World) : Prop :=
  ∀ id r, w.driver.remote id = some r → r.properties.ready = true →
    (w.connections id).holdsFrame = false

theorem call_eq_some {c : Driver.Call} (h : w.call c = some d) :
    Driver.CallDone w.driver c (w.driver.call c).effects d := by
  rw [call] at h
  cases hresult : (w.driver.call c).result with
  | error x =>
      rw [hresult] at h
      cases h
  | ok d' =>
      rw [hresult] at h
      cases h
      exact Driver.call_done hresult

theorem polled_eq_some {r : Register RemoteResource RemoteProperties} (h : w.polled id = some r) :
    id.resourceType = .remote ∧ w.driver.remote id = some r := by
  rw [polled] at h
  cases hid : id.resourceType with
  | «local» =>
      rw [hid] at h
      cases h
  | remote =>
      rw [hid] at h
      exact ⟨rfl, h⟩

/-- One remote and its connection change. -/
theorem Settled.become (h : w.Settled) {c : Connection}
    {r : Register RemoteResource RemoteProperties} {there : Bool}
    (hbecomes : Driver.Becomes id w.driver d r there)
    (hself : there = true → r.properties.ready = true → c.holdsFrame = false) :
    (w.become d id c).Settled := by
  intro id' r' hr' hready
  by_cases hid : id' = id
  · subst hid
    have hr : (if there then some r else none) = some r' := hbecomes.self.symm.trans hr'
    change (Function.update w.connections id' c id').holdsFrame = false
    rw [Function.update_self]
    cases there with
    | false => cases hr
    | true =>
        cases hr
        exact hself rfl hready
  · change (Function.update w.connections id c id').holdsFrame = false
    rw [Function.update_of_ne hid]
    exact h id' r' ((hbecomes.others id' hid).symm.trans hr') hready

/-- The remotes stay, and the codec of one is left alone. -/
theorem Settled.same (h : w.Settled) (hsame : ∀ id, d.remote id = w.driver.remote id)
    {c : Connection} (hc : c.holdsFrame = (w.connections id).holdsFrame) :
    (w.become d id c).Settled := by
  intro id' r hr hready
  by_cases hid : id' = id
  · subst hid
    change (Function.update w.connections id' c id').holdsFrame = false
    rw [Function.update_self, hc]
    exact h id' r ((hsame id').symm.trans hr) hready
  · change (Function.update w.connections id c id').holdsFrame = false
    rw [Function.update_of_ne hid]
    exact h id' r ((hsame id').symm.trans hr) hready

/-- A call of the driver that is no event of the poll. -/
theorem Settled.command (h : w.Settled) {c : Driver.Call} (hpolls : c.polls = none)
    (hcall : w.call c = some d) : ({ w with driver := d } : World).Settled := by
  intro id' r' hr' hready
  have hbecomes : ∀ {id : ResourceId} {r : Register RemoteResource RemoteProperties} {there : Bool},
      Driver.Becomes id w.driver d r there → (there = true → r.properties.ready = false) →
        (w.connections id').holdsFrame = false := by
    intro id r there hbecomes hunready
    by_cases hid : id' = id
    · subst hid
      have hr : (if there then some r else none) = some r' := hbecomes.self.symm.trans hr'
      cases there with
      | false => cases hr
      | true =>
          cases hr
          cases (hunready rfl).symm.trans hready
    · exact h id' r' ((hbecomes.others id' hid).symm.trans hr') hready
  cases call_eq_some hcall with
  | read => cases hpolls
  | write => cases hpolls
  | close hr hgone => exact hbecomes hgone nofun
  | registers hc hmade hmakes => exact hbecomes hmakes fun _ ↦ rfl
  | same hsame => exact h id' r' ((hsame id').symm.trans hr') hready

/-- An event of the poll that is about a listener leaves the driver as it is. -/
theorem driver_local (hid : id.resourceType = .local) {c : Driver.Call} (hpolls : c.polls = some id)
    (hcall : w.call c = some d) : d = w.driver := by
  rw [call] at hcall
  cases c with
  | read id' env reads accepts =>
      cases hpolls
      rw [Driver.call, Driver.processRead, hid] at hcall
      cases hl : w.driver.listener id with
      | none =>
          simp only [hl] at hcall
          cases hcall
          rfl
      | some l =>
          simp only [hl] at hcall
          cases hread : (Driver.readFromLocal l.resource id accepts).result with
          | error x =>
              rw [Proc.result_bind_error hread] at hcall
              cases hcall
          | ok done =>
              rw [Proc.result_bind_ok hread] at hcall
              cases hcall
              rfl
  | write id' env =>
      cases hpolls
      rw [Driver.call, Driver.processWrite, hid] at hcall
      cases hcall
      rfl
  | _ => cases hpolls

/-- An event of the poll that is about no remote. -/
theorem Settled.idle (h : w.Settled) {c : Driver.Call} (hpolls : c.polls = some id)
    (hpolled : w.polled id = none) (hcall : w.call c = some d) :
    ({ w with driver := d } : World).Settled := by
  have hsame : ∀ id', d.remote id' = w.driver.remote id' := by
    cases hid : id.resourceType with
    | «local» =>
        intro id'
        rw [driver_local hid hpolls hcall]
    | remote =>
        rw [polled, hid] at hpolled
        cases call_eq_some hcall with
        | read hr =>
            cases hpolls
            cases hpolled.symm.trans hr
        | write hr =>
            cases hpolls
            cases hpolled.symm.trans hr
        | close => cases hpolls
        | registers hc =>
            cases c with
            | acceptRegisterRemote => cases hpolls
            | connectRegisterRemote => cases hpolls
            | _ => cases hc
        | same hsame => exact hsame
  exact fun id' r hr hready ↦ h id' r ((hsame id').symm.trans hr) hready

/-- A write leaves nothing behind, if the handshake that it ends does not. -/
theorem Settled.write (h : w.Settled) {env : PendingEnv} {hs : HandshakeAnswers}
    {r : Register RemoteResource RemoteProperties} (hpolled : w.polled id = some r)
    (hcall : w.call (.write id env) = some d)
    (hclears : r.properties.ready = false → becomesReady r env = true →
      (front r env hs (w.connections id)).holdsFrame = false) :
    (w.become d id (front r env hs (w.connections id))).Settled := by
  obtain ⟨hid, hr⟩ := polled_eq_some hpolled
  cases call_eq_some hcall with
  | write hr' hresolves hbecomes =>
      cases hr.symm.trans hr'
      refine h.become hbecomes fun _ hready ↦ ?_
      cases hunready : r.properties.ready with
      | false => exact hclears hunready ((becomesReady_eq hresolves).trans hready)
      | true =>
          rw [front, hunready, if_pos rfl]
          exact h id r hr hunready
  | same _ _ hidle => cases hr.symm.trans (hidle id rfl hid)
  | registers hc => cases hc

/-- A remote that does not become ready is not read. -/
theorem Settled.unready (h : w.Settled) {env : PendingEnv} {envs : List ReadEnv}
    {accepts : List AcceptEnv} {c : Connection} {r : Register RemoteResource RemoteProperties}
    (hpolled : w.polled id = some r) (hcall : w.call (.read id env envs accepts) = some d)
    (hunready : becomesReady r env = false) : (w.become d id c).Settled := by
  obtain ⟨hid, hr⟩ := polled_eq_some hpolled
  cases call_eq_some hcall with
  | read hr' hreads hbecomes =>
      cases hr.symm.trans hr'
      generalize messagesOf id (w.driver.call (.read id env envs accepts)).effects = data at hreads
      cases hreads with
      | unready hresolves hready =>
          exact h.become hbecomes fun _ hready' ↦ nomatch hready.symm.trans hready'
      | waits hresolves hready =>
          cases hunready.symm.trans ((becomesReady_eq hresolves).trans hready)
      | leaves hresolves hready =>
          cases hunready.symm.trans ((becomesReady_eq hresolves).trans hready)
  | same _ _ hidle => cases hr.symm.trans (hidle id rfl hid)
  | registers hc => cases hc

/-- A read leaves nothing behind, if nothing is stranded in what there is to be read. -/
theorem Settled.read (h : w.Settled) {u : Utf8Crate} {env : PendingEnv}
    {answers : List TurnAnswers} {envs : List ReadEnv} {accepts : List AcceptEnv}
    {c c' : Connection} {r : Register RemoteResource RemoteProperties}
    (hpolled : w.polled id = some r) (hcall : w.call (.read id env envs accepts) = some d)
    (hready : becomesReady r env = true) (hturns : c.turns u answers = some (envs, c'))
    (hclears : ¬ c.StrandsFrame) : (w.become d id c').Settled := by
  obtain ⟨hid, hr⟩ := polled_eq_some hpolled
  cases call_eq_some hcall with
  | read hr' hreads hbecomes =>
      cases hr.symm.trans hr'
      refine h.become hbecomes fun hthere _ ↦ ?_
      generalize messagesOf id (w.driver.call (.read id env envs accepts)).effects = data at hreads
      cases hreads with
      | unready hresolves hunready =>
          cases hready.symm.trans ((becomesReady_eq hresolves).trans hunready)
      | waits _ _ hreceive => exact holdsFrame_of_waits hclears hturns hreceive
      | leaves => cases hthere
  | same _ _ hidle => cases hr.symm.trans (hidle id rfl hid)
  | registers hc => cases hc

theorem Settled.step {u : Utf8Crate} (h : w.Settled) {e : Event} (hclears : w.Clears e)
    (hstep : w.step u e = some w') : w'.Settled := by
  cases e with
  | arrive id reads =>
      cases hstep
      exact h.same (fun _ ↦ rfl) rfl
  | read id env hs answers accepts =>
      rw [World.step] at hstep
      cases hpolled : w.polled id with
      | none =>
          simp only [hpolled] at hstep
          obtain ⟨d, hcall, hstep⟩ := Option.bind_eq_some_iff.1 hstep
          cases hstep
          exact h.idle rfl hpolled hcall
      | some r =>
          simp only [hpolled] at hstep
          cases hready : becomesReady r env with
          | false =>
              simp only [hready, Bool.false_eq_true, if_false] at hstep
              obtain ⟨d, hcall, hstep⟩ := Option.bind_eq_some_iff.1 hstep
              cases hstep
              exact h.unready hpolled hcall hready
          | true =>
              simp only [hready, if_true] at hstep
              obtain ⟨⟨envs, c⟩, hturns, hstep⟩ := Option.bind_eq_some_iff.1 hstep
              obtain ⟨d, hcall, hstep⟩ := Option.bind_eq_some_iff.1 hstep
              cases hstep
              exact h.read hpolled hcall hready hturns (hclears r hpolled hready)
  | write id env hs =>
      obtain ⟨d, hcall, hstep⟩ := Option.bind_eq_some_iff.1 hstep
      cases hpolled : w.polled id with
      | none =>
          simp only [hpolled] at hstep
          cases hstep
          exact h.idle rfl hpolled hcall
      | some r =>
          simp only [hpolled] at hstep
          cases hstep
          exact h.write hpolled hcall (hclears r hpolled)
  | send endpoint data first more =>
      rw [World.step] at hstep
      cases hsends : w.sendsTo endpoint.resourceId with
      | false =>
          simp only [hsends, Bool.false_eq_true, if_false] at hstep
          obtain ⟨d, hcall, hstep⟩ := Option.bind_eq_some_iff.1 hstep
          cases hstep
          exact h.command rfl hcall
      | true =>
          simp only [hsends, if_true] at hstep
          obtain ⟨⟨calls, web⟩, hloop, hstep⟩ := Option.bind_eq_some_iff.1 hstep
          obtain ⟨d, hcall, hstep⟩ := Option.bind_eq_some_iff.1 hstep
          cases hstep
          have hinput := WebSocket.input_send
            ((w.connections endpoint.resourceId).web.answered first) data
          rw [EStateM.Ensures] at hinput
          have hsent : (w.connections endpoint.resourceId).web.context.frame.SameInput
              web.context.frame := by
            have hsame := sameInput_sends hloop
            exact ⟨hsame.inBuffer.trans (congrArg WebSocket.Input.inBuffer hinput),
              hsame.header.trans (congrArg WebSocket.Input.header hinput)⟩
          cases call_eq_some hcall with
          | registers hc => cases hc
          | same hsame => exact h.same hsame hsent.holdsFrame
  | command c =>
      rw [World.step] at hstep
      cases hc : isCommand c with
      | false =>
          rw [hc] at hstep
          cases hstep
      | true =>
          simp only [hc, if_true] at hstep
          obtain ⟨d, hcall, hstep⟩ := Option.bind_eq_some_iff.1 hstep
          cases hstep
          refine h.command ?_ hcall
          cases c with
          | read => cases hc
          | write => cases hc
          | _ => rfl

end World

/-- **No frame is left behind**: in every state that is reached by events that strand nothing, no
remote that is ready holds a whole frame; and whenever `receive` waits for the next event, where
nothing was stranded, its codec does not either. -/
theorem nothing_stranded {connections : ResourceId → Connection} {w : World}
    (h : Transition.Reach (World.step u) World.Clears (.new connections) w) :
    (∀ id r, w.driver.remote id = some r → r.properties.ready = true →
      (w.connections id).holdsFrame = false) ∧
    ∀ {c c' : Connection} {answers : List TurnAnswers} {envs : List ReadEnv}
      {r r' : RemoteResource}, ¬ c.StrandsFrame → c.turns u answers = some (envs, c') →
        (Remote.receive r envs).result = .ok (.waitNextEvent, r') → c'.holdsFrame = false := by
  refine ⟨?_, holdsFrame_of_waits⟩
  refine h.invariant (P := World.Settled) ?_ fun hsettled hclears hstep ↦
    hsettled.step hclears hstep
  intro id r hr
  cases hr

end

/-! ## Two messages in one read -/

/-- A message of one byte, as a server sends it. -/
def oneByte (b : UInt8) : Bytes := [0x82, 0x01, b]

/-- A remote that connects, and is ready when it can be written to. -/
def connected (tail : Bytes) : List Event :=
  [.command (.connectRegisterRemote (.localhost 81) (⟨0x0003000000000001⟩, .localhost 80) ⟨0⟩
      (.wsConnect ⟨"ws://127.0.0.1:80/"⟩ none) ⟨0⟩ .fine),
    .write ⟨0x0003000000000001⟩ (.connectedTo (.localhost 80)) ⟨0, tail⟩]

/-- Bytes arrive at the remote, and it is read. -/
def arrives (reads : List ReadCall) : List Event :=
  [.arrive ⟨0x0003000000000001⟩ reads,
    .read ⟨0x0003000000000001⟩ (.connectedTo (.localhost 80)) ⟨0, []⟩
      (reads.map fun _ ↦ ⟨[], [], [], .ok (), nofun⟩) []]

/-- Every web socket is new, and nothing has arrived. -/
def World.fresh : World := .new fun _ ↦ ⟨.fresh .client ⟨[], [], [], []⟩, []⟩

/-- A frame is left behind: a remote is ready, and its codec holds one. -/
def World.Holds (w : World) : Prop :=
  ∃ id r, w.driver.remote id = some r ∧ r.properties.ready = true ∧
    (w.connections id).holdsFrame = true

/-- **Two messages in one read**, or one behind the head of a handshake that ends in a write: the
last one is left behind. -/
theorem holds_twoMessages :
    (∃ w, Transition.run (World.step .reference) .fresh
        (connected [] ++ arrives [.ok (oneByte 0x61 ++ oneByte 0x62)]) = some w ∧ w.Holds) ∧
      ∃ w, Transition.run (World.step .reference) .fresh (connected (oneByte 0x61)) = some w ∧
        w.Holds := by
  refine ⟨⟨_, rfl, ⟨0x0003000000000001⟩, _, rfl, rfl, rfl⟩,
    ⟨_, rfl, ⟨0x0003000000000001⟩, _, rfl, rfl, rfl⟩⟩

/-- Two messages, each in a read of its own: nothing is left behind. -/
theorem nothing_stranded_twoReads : ∃ w,
    Transition.run (World.step .reference) .fresh
      (connected [] ++ arrives [.ok (oneByte 0x61), .ok (oneByte 0x62)]) = some w ∧
    (∃ r, w.driver.remote ⟨0x0003000000000001⟩ = some r ∧ r.properties.ready = true) ∧
      ∀ id r, w.driver.remote id = some r → r.properties.ready = true →
        (w.connections id).holdsFrame = false := by
  obtain ⟨w₁, w₂, w₃, w₄, h₁, h₂, h₃, h₄, ⟨r₁, hr₁, hclears₁⟩, ⟨r₃, c₃, hr₃, hc₃, hkernel, hmax,
      hbuffer, hheader⟩, hready⟩ :
      ∃ w₁ w₂ w₃ w₄ : World,
        World.fresh.step .reference (.command (.connectRegisterRemote (.localhost 81)
          (⟨0x0003000000000001⟩, .localhost 80) ⟨0⟩ (.wsConnect ⟨"ws://127.0.0.1:80/"⟩ none) ⟨0⟩
          .fine)) = some w₁ ∧
        w₁.step .reference (.write ⟨0x0003000000000001⟩ (.connectedTo (.localhost 80)) ⟨0, []⟩) =
          some w₂ ∧
        w₂.step .reference (.arrive ⟨0x0003000000000001⟩
          [.ok (oneByte 0x61), .ok (oneByte 0x62)]) = some w₃ ∧
        w₃.step .reference (.read ⟨0x0003000000000001⟩ (.connectedTo (.localhost 80)) ⟨0, []⟩
          [⟨[], [], [], .ok (), nofun⟩, ⟨[], [], [], .ok (), nofun⟩] []) = some w₄ ∧
        (∃ r₁, w₁.polled ⟨0x0003000000000001⟩ = some r₁ ∧
          (front r₁ (.connectedTo (.localhost 80)) ⟨0, []⟩
            (w₁.connections ⟨0x0003000000000001⟩)).holdsFrame = false) ∧
        (∃ r₃ c₃, w₃.polled ⟨0x0003000000000001⟩ = some r₃ ∧
          front r₃ (.connectedTo (.localhost 80)) ⟨0, []⟩
            (w₃.connections ⟨0x0003000000000001⟩) = c₃ ∧
          c₃.kernel = [.ok (oneByte 0x61), .ok (oneByte 0x62)] ∧ c₃.web.maxSize = 16 <<< 20 ∧
          c₃.web.context.frame.inBuffer = [] ∧ c₃.web.context.frame.header = none) ∧
        ∃ r, w₄.driver.remote ⟨0x0003000000000001⟩ = some r ∧ r.properties.ready = true :=
    ⟨_, _, _, _, rfl, rfl, rfl, rfl, ⟨_, rfl, rfl⟩,
      ⟨_, _, rfl, rfl, rfl, rfl, rfl, rfl⟩, _, rfl, rfl⟩
  have hrun : Transition.run (World.step .reference) .fresh
      (connected [] ++ arrives [.ok (oneByte 0x61), .ok (oneByte 0x62)]) = some w₄ := by
    simp only [connected, arrives, List.cons_append, List.nil_append, Transition.run, List.map_cons,
      List.map_nil, h₁, h₂, h₃, h₄, Option.bind_some]
  have hwrite : w₁.Clears (.write ⟨0x0003000000000001⟩ (.connectedTo (.localhost 80)) ⟨0, []⟩) := by
    intro r hr _ _
    cases hr₁.symm.trans hr
    exact hclears₁
  have hread : w₃.Clears (.read ⟨0x0003000000000001⟩ (.connectedTo (.localhost 80)) ⟨0, []⟩
      [⟨[], [], [], .ok (), nofun⟩, ⟨[], [], [], .ok (), nofun⟩] []) := by
    intro r hr _
    cases hr₃.symm.trans hr
    rw [hc₃, Connection.StrandsFrame, hmax, hkernel]
    have hframes : ∀ f ∈ [Frame.message [0x61] .binary true, Frame.message [0x62] .binary true],
        f.Passes (16 <<< 20) := by
      intro f hf
      rcases List.mem_pair.1 hf with rfl | rfl
      · exact ⟨rfl, by decide⟩
      · exact ⟨rfl, by decide⟩
    exact not_strands_frames (by decide) hframes (.between hheader (by rw [hbuffer]; rfl)) _
  have harrive : w₂.Clears (.arrive ⟨0x0003000000000001⟩
      [.ok (oneByte 0x61), .ok (oneByte 0x62)]) := trivial
  have hreach : Transition.Reach (World.step .reference) World.Clears
      (.new fun _ ↦ ⟨.fresh .client ⟨[], [], [], []⟩, []⟩) w₄ :=
    (((Transition.Reach.refl.tail trivial h₁).tail hwrite h₂).tail harrive h₃).tail hread h₄
  exact ⟨w₄, hrun, hready, (nothing_stranded hreach).1⟩

end Ws

end MessageIo
