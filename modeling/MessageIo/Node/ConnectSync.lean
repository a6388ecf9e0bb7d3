import MessageIo.Node.Gone

/-!
# A synchronous connect (`NodeHandler::connect_sync_with`)

A thread of the user asks for an id, posts the connect to the master, waits for its callback, and
then asks the worker, at most 1000 times, whether the remote is ready.  It is a machine of its own
beside the node, whose other users go on as they like.

The answers decide.  `Some(true)` ends the call with `Ok`, `None` with an error, and by then the
remote is gone for good (`Gone`).  But when all questions have been answered `Some(false)`, the
call gives up and leaves the remote where it is: it may still connect, and then the user is told
of a connection that the call has denied.
-/

namespace MessageIo

/-! ## Callbacks on their way -/

/-- The callback that a command carries, be it the user's or a driver's. -/
def WakerCommand.carries : WakerCommand → Option Callback
  | connectRegisterRemote _ _ _ _ cb => some cb
  | c => c.callback

/-- Nothing is called, or the callback of the command is. -/
def CallsOnly (c : WakerCommand) (e : Effect) : Prop :=
  ∀ cb reply, e = .call cb reply → c.carries = some cb

theorem CallsOnly.of_call {c : WakerCommand} {cb : Callback} (reply : Reply)
    (h : c.carries = some cb) : CallsOnly c (.call cb reply) := by
  rintro cb' reply' heq
  cases heq
  exact h

/-- **A command calls no callback but its own.** -/
theorem processCommand_callsOnly (transports : List Transport) (ps : Processors)
    (c : WakerCommand) (env : CommandEnv) :
    (processCommand transports ps c env).Satisfies (CallsOnly c) (fun _ ↦ True)
      (fun _ ↦ True) := by
  have hget : ∀ {id : ResourceId}, (Proc.ofExcept (getProcessor transports id)).Satisfies
      (CallsOnly c) (fun _ ↦ True) (fun _ ↦ True) :=
    .of_ofExcept (fun _ _ ↦ trivial) fun _ _ ↦ trivial
  have hresult : ∀ {α : Type} {r : Except Halt α}, (Proc.ofExcept r).Satisfies
      (CallsOnly c) (fun _ ↦ True) (fun _ ↦ True) :=
    .of_ofExcept (fun _ _ ↦ trivial) fun _ _ ↦ trivial
  have hsend : ∀ {t : Transport} {endpoint : Endpoint} {data : Bytes},
      ((ps t).processSend endpoint data env.send).Satisfies (CallsOnly c) (fun _ ↦ True)
        (fun _ ↦ True) := by
    intro t endpoint data
    refine ⟨fun e he ↦ ?_, fun _ _ ↦ trivial, fun _ _ ↦ trivial⟩
    obtain ⟨ws, hws⟩ : ∃ ws : List Written,
        ((ps t).processSend endpoint data env.send).effects = ws.map .write := processSend_effects
    rw [hws] at he
    obtain ⟨w, -, rfl⟩ := List.mem_map.1 he
    exact nofun
  cases c with
  | greet text => exact .effect_bind nofun (.of_pure trivial)
  | stop => exact .effect_bind nofun (.of_pure trivial)
  | acceptRegisterRemote localPair remotePair stream payload =>
      refine hget.bind fun t _ ↦ Proc.Satisfies.bind (Q := fun _ ↦ True) ?_ fun _ _ ↦
        .of_pure trivial
      exact hresult.bind fun _ _ ↦ hresult
  | connectRegisterRemote localAddr remotePair stream payload cb =>
      refine hget.bind fun t _ ↦ Proc.Satisfies.bind (Q := fun _ ↦ True) ?_ fun _ _ ↦
        .of_pure trivial
      exact hresult.bind fun _ _ ↦ hresult.bind fun _ _ ↦
        .effect_bind (.of_call _ rfl) (.of_pure trivial)
  | listen config localId addr cb =>
      refine hget.bind fun t _ ↦ Proc.Satisfies.bind (Q := fun _ ↦ True) ?_ fun _ _ ↦
        .of_pure trivial
      refine hresult.bind fun ret _ ↦ ?_
      cases ret with
      | error err => exact .effect_bind (.of_call _ rfl) (.of_pure trivial)
      | ok ret => exact hresult.bind fun _ _ ↦ .effect_bind (.of_call _ rfl) (.of_pure trivial)
  | connect config remoteId raddr cb =>
      refine hget.bind fun t _ ↦ Proc.Satisfies.bind (Q := fun _ ↦ True) ?_ fun _ _ ↦
        .of_pure trivial
      refine hresult.bind fun ret _ ↦ ?_
      cases ret with
      | error err => exact .of_pure trivial
      | ok ret => exact .of_effect nofun trivial
  | send endpoint buffer => exact hget.bind fun t _ ↦ hsend.bind fun _ _ ↦ .of_pure trivial
  | sendSync endpoint buffer cb =>
      exact hget.bind fun t _ ↦ hsend.bind fun _ _ ↦
        .effect_bind (.of_call _ rfl) (.of_pure trivial)
  | close id => exact hget.bind fun t _ ↦ .of_pure trivial
  | isReady id cb =>
      exact hget.bind fun t _ ↦ .effect_bind (.of_call _ rfl) (.of_pure trivial)

namespace Node

variable {N : Nat} [NeZero N] {transports : List Transport} {s s' : Node N} {m : Ctl N}
  {a : Answers}

omit [NeZero N] in
/-- What a step posts with a callback is the registration of a connection that it was to make. -/
theorem Calls.posts {p : Action Processors} (hp : Calls transports s m a p) {id : ResourceId}
    {c : WakerCommand} (he : .post id c ∈ p.effects) {cb : Callback} (hcb : c.carries = some cb) :
    ∃ post ∈ (s.muxes m).queue, ∃ config raddr arrival, post.command = .connect config id raddr cb ∧
      c.arrival = some arrival ∧ arrival.id = id := by
  cases hp with
  | noProcessor hphase hget => cases he
  | remote hphase hevent =>
      obtain ⟨event, heq, -⟩ : Driver.IsEventOf _ (.post id c) := hevent.spec.effects _ he
      cases heq
  | @post count p queue tasks hphase hqueue =>
      cases (processCommand_spec ..).effects _ he with
      | @post config id raddr cb' info payload hc hstream =>
          cases hcb
          refine ⟨p, ?_, config, raddr, _, hc, rfl, rfl⟩
          rw [hqueue]
          exact List.mem_cons_self
  | @accept t l id' tasks hphase =>
      obtain ⟨payload, hpayload⟩ := Driver.localAcceptTurn_eq t l
      have hturn := Driver.acceptTurn_spec hpayload id' (s.acceptEnv id' a.accept)
      change .post id c ∈ (Driver.acceptTurn l id' (s.acceptEnv id' a.accept)).effects at he
      generalize Driver.acceptTurn l id' (s.acceptEnv id' a.accept) = turn at hturn he
      cases hturn with
      | sent haccept hlocal hremote =>
          cases List.mem_singleton.1 he
          cases hcb
      | noAddr haccept hlocal => cases he
      | noId haccept hlocal hremote => cases he
      | nothing haccept => cases he

omit [NeZero N] in
/-- What a step calls is the callback of the command that it takes from the queue. -/
theorem Calls.calls {p : Action Processors} (hp : Calls transports s m a p) {cb : Callback}
    {reply : Reply} (he : .call cb reply ∈ p.effects) :
    ∃ post ∈ (s.muxes m).queue, post.command.carries = some cb ∧
      (s.muxes m).phase.pending = [] ∧
        ∃ env, p = processCommand transports (s.muxes m).processors post.command env := by
  cases hp with
  | noProcessor hphase hget => cases he
  | remote hphase hevent =>
      obtain ⟨event, heq, -⟩ : Driver.IsEventOf _ (.call cb reply) := hevent.spec.effects _ he
      cases heq
  | @post count p queue tasks hphase hqueue =>
      refine ⟨p, ?_, (processCommand_callsOnly ..).effects _ he cb reply rfl,
        congrArg Phase.pending hphase, _, rfl⟩
      rw [hqueue]
      exact List.mem_cons_self
  | @accept t l id' tasks hphase =>
      obtain ⟨payload, hpayload⟩ := Driver.localAcceptTurn_eq t l
      have hturn := Driver.acceptTurn_spec hpayload id' (s.acceptEnv id' a.accept)
      change .call cb reply ∈ (Driver.acceptTurn l id' (s.acceptEnv id' a.accept)).effects at he
      generalize Driver.acceptTurn l id' (s.acceptEnv id' a.accept) = turn at hturn he
      cases hturn with
      | sent haccept hlocal hremote => cases List.mem_singleton.1 he
      | noAddr haccept hlocal => cases he
      | noId haccept hlocal hremote => cases he
      | nothing haccept => cases he

end Node

namespace ConnectSync

open Node

/-! ## The call -/

/-- The arguments of a call, and what its closures are called: they are counted from `first`. -/
structure Call where
  config : ConnectConfig
  transport : Transport
  raddr : RemoteAddr
  first : Nat

def Call.closure (c : Call) (i : Nat) : Callback := ⟨c.first + i⟩

theorem Call.closure_injective (c : Call) : Function.Injective c.closure := by
  intro i j h
  exact Nat.add_left_cancel (congrArg Callback.name h)

/-- The errors that the call returns. -/
inductive Error where
  /-- "Connection refused" -/
  | connectionRefused
  /-- "Connection aborted" -/
  | connectionAborted
  /-- What the callback of `connect_with` was called with. -/
  | connect (e : IoError)

/-- How often it asks, a millisecond apart. -/
def maxRetries : Nat := 1000

/-- Where the call stands. -/
inductive Stage (N : Nat) where
  | start
  /-- It has its id. -/
  | connecting
  /-- It waits for the callback of `connect_with`. -/
  | awaiting
  /-- It is about to ask, unless there are no retries left. -/
  | polling (endpoint : Endpoint) (addr : SocketAddr) (retries : Nat)
  /-- It waits for an answer. -/
  | asking (endpoint : Endpoint) (addr : SocketAddr) (retries : Nat)
  /-- It has returned; `before` is what had happened by then. -/
  | returned (ret : Except Error (Endpoint × SocketAddr)) (before : History N)

/-- The endpoint that the callback has named. -/
def Stage.endpoint {N : Nat} : Stage N → Option Endpoint
  | polling endpoint _ _ => some endpoint
  | asking endpoint _ _ => some endpoint
  | returned (.ok (endpoint, _)) _ => some endpoint
  | _ => none

def Stage.isReturned {N : Nat} : Stage N → Bool
  | returned _ _ => true
  | _ => false

/-- A node, and a thread of the user that is in a call of `connect_sync_with`. -/
structure Session (N : Nat) where
  node : Node N
  /-- The thread has enqueued a command and has to wake its controller. -/
  waking : Option (Ctl N)
  /-- The id that `next_remote_id` has given to it. -/
  remoteId : Option ResourceId
  stage : Stage N

/-- What a callback has been called with. -/
def reply {N : Nat} (h : History N) (cb : Callback) : Option Reply :=
  h.findSome? fun
    | .called _ cb' reply => if cb' = cb then some reply else none
    | _ => none

namespace Session

variable {N : Nat}

def new (N : Nat) : Session N := ⟨.new N, none, none, .start⟩

def finish (s : Session N) (ret : Except Error (Endpoint × SocketAddr)) : Session N :=
  { s with stage := .returned ret s.node.history }

variable [NeZero N] (transports : List Transport)

/-- A post: the command is enqueued, and the wake is to follow. -/
def post (s : Session N) (m : Ctl N) (c : WakerCommand) (stage : Stage N) :
    Option (Session N) :=
  (s.node.step transports (.enqueue m c)).map fun node ↦ { s with node, waking := some m, stage }

/-- The next thing that the call does, if it need not wait. -/
def advance (c : Call) (s : Session N) : Option (Session N) :=
  match s.waking with
  | some m => (s.node.step transports (.wake m)).map fun node ↦ { s with node, waking := none }
  | none =>
      match s.stage with
      | .start =>
          (s.node.step transports (.generate .remote c.transport)).map fun node ↦ { s with
            node
            remoteId := (s.node.rgen.generate c.transport.id).1
            stage := .connecting }
      | .connecting => s.remoteId.bind fun id ↦
          s.post transports .master (.connect c.config id c.raddr (c.closure 0)) .awaiting
      | .awaiting =>
          match reply s.node.history (c.closure 0) with
          | some (.connect (.ok (endpoint, addr))) =>
              some { s with stage := .polling endpoint addr maxRetries }
          | some (.connect (.error err)) => some (s.finish (.error (.connect err)))
          | _ => none
      -- "abort after retry 1000 times"
      | .polling _ _ 0 => some (s.finish (.error .connectionAborted))
      | .polling endpoint addr (k + 1) =>
          s.post transports (workerOf endpoint.resourceId)
            (.isReady endpoint.resourceId (c.closure (k + 1))) (.asking endpoint addr k)
      | .asking endpoint addr k =>
          match reply s.node.history (c.closure (k + 1)) with
          | some (.isReady (some true)) => some (s.finish (.ok (endpoint, addr)))
          | some (.isReady (some false)) => some { s with stage := .polling endpoint addr k }
          | some (.isReady none) => some (s.finish (.error .connectionRefused))
          | _ => none
      | .returned _ _ => none

end Session

/-- A step of the call, or of anyone else. -/
inductive Move (N : Nat) where
  | advance
  | other (b : Step N)

namespace Session

variable {N : Nat} [NeZero N]

def step (c : Call) (transports : List Transport) (s : Session N) : Move N → Option (Session N)
  | .advance => s.advance transports c
  | .other b => (s.node.step transports b).map fun node ↦ { s with node }

/-- The others go through `NodeHandler` too.  They have closures of their own, and do not post
the id that the call has been given. -/
def Allowed (c : Call) (s : Session N) : Move N → Prop
  | .advance => True
  | .other b => s.node.UsesHandler b ∧ ∀ m command, b = .enqueue m command →
      (∀ i, command.callback ≠ some (c.closure i)) ∧
        ∀ id, s.remoteId = some id → postedId command ≠ some id

/-- The call does not run out of retries. -/
def HasRetries (s : Session N) : Move N → Prop
  | .advance => ∀ endpoint addr, s.stage ≠ .polling endpoint addr 0
  | .other _ => True

end Session

end ConnectSync

end MessageIo
