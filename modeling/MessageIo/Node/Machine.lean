import Mathlib.Data.Fintype.Sum
import Mathlib.Tactic.DeriveFintype
import MessageIo.Lib.Transition
import MessageIo.Network.Multiplexor
import MessageIo.Network.Poll

/-!
# The node (`node.rs`, `network.rs`, `network/poll.rs`, `events.rs`)

One master and `N` workers, each a thread with a queue of commands, a waker and its own
drivers, and any number of threads of the user that post commands.  A step of the
machine is one thing that one thread does: an enqueue, a wake, a test of the flag
`running`, a poll, one command taken from a queue, one turn of an accept loop, one
call of a callback.  Callbacks run on the thread of a worker, but all they can do to
the node is what a thread of the user can do at any time.

What a driver does with one command or one poll event is a list of effects that are
performed step by step.  Its registries change at once, which no other thread can see.

A history records what happened, newest first.  It, the mark `learned` of a post and the
counter of streams are there to state properties; the rest of the step reads only the counter,
to give every new stream a name of its own.
-/

namespace MessageIo

/-! ## Threads, tasks and queues -/

/-- A controller: that of the master or that of a worker. -/
inductive Ctl (N : Nat) where
  | master
  | worker (index : Fin N)
deriving DecidableEq, Fintype

/-- One worker is enough. -/
instance neZero_one : NeZero (1 : Nat) := ⟨Nat.one_ne_zero⟩

/-- `to_worker_index` -/
def toWorkerIndex (N : Nat) [NeZero N] (id : ResourceId) : Fin N := Fin.ofNat N id.raw

@[simp] theorem val_toWorkerIndex (N : Nat) [NeZero N] (id : ResourceId) :
    (toWorkerIndex N id : Nat) = id.raw % N := rfl

/-- The worker in charge of an id. -/
def workerOf {N : Nat} [NeZero N] (id : ResourceId) : Ctl N := .worker (toWorkerIndex N id)

/-- A command in a queue. -/
structure Post where
  command : WakerCommand
  /-- The remote it is about had been named to the user, in a callback or an event. -/
  learned : Bool
deriving DecidableEq, Repr

/-- An effect still to be performed, or the wake that ends a post. -/
inductive Pending (N : Nat) where
  | effect (e : Effect)
  | wake (m : Ctl N)

/-- What a thread still has to do within `process_poll_event`. -/
inductive Task where
  /-- A poll event of the batch. -/
  | event (e : PollEvent)
  /-- The loop that drains the queue, with the commands it has taken so far. -/
  | drain (count : Nat)
  /-- The loop that accepts from a listener. -/
  | accept (t : Transport) (l : t.LocalResource) (id : ResourceId)
  /-- A call that does not return. -/
  | halt (h : Halt)

/-- Where a thread stands in the loop of `launch_thread`. -/
inductive Phase (N : Nat) where
  /-- It is about to test `is_running`. -/
  | test
  | polling
  | busy (pending : List (Pending N)) (tasks : List Task)
  | exited
  | panicked (p : Panic)

/-- The thread has ended, and has dropped its receiver. -/
def Phase.disconnected {N : Nat} : Phase N → Bool
  | exited => true
  | panicked _ => true
  | _ => false

/-- What waits in the queue of a thread: what was there is dropped with the receiver. -/
def Phase.keeps {N : Nat} (phase : Phase N) (queue : List Post) : List Post :=
  bif phase.disconnected then [] else queue

/-- A `MultiplexorWorker` and what its controller shares with others. -/
structure Mux (N : Nat) where
  queue : List Post
  /-- A wake that the poll has not reported. -/
  woken : Bool
  phase : Phase N
  processors : Processors
  /-- The ids that the poll has been given to watch. -/
  watched : List ResourceId

def Mux.new (N : Nat) : Mux N := ⟨[], false, .test, .new, []⟩

/-! ## The history -/

inductive Entry (N : Nat) where
  /-- The operating system has accepted a stream. -/
  | accepted (m : Ctl N) (listener : ResourceId) (stream : TcpStream) (addr : SocketAddr)
  /-- A stream has been given its id. -/
  | created (m : Ctl N) (a : Arrival)
  | registered (m : Ctl N) (t : Transport) (a : Arrival)
  | deregistered (m : Ctl N) (t : Transport) (id : ResourceId)
  | called (m : Ctl N) (cb : Callback) (reply : Reply)
  | emitted (m : Ctl N) (e : NodeEvent)
  /-- A command is taken from a queue; `found` tells if its target is registered there. -/
  | dequeued (m : Ctl N) (p : Post) (found : Bool)
  | stopped

abbrev History (N : Nat) := List (Entry N)

/-- The id of a remote that an entry names to the user. -/
def Entry.teaches {N : Nat} : Entry N → Option ResourceId
  | called _ _ (.connect (.ok (endpoint, _))) => some endpoint.resourceId
  | emitted _ (.network e) => some e.endpoint.resourceId
  | _ => none

/-- A remote has been named to the user. -/
def History.taught {N : Nat} (h : History N) (id : ResourceId) : Bool :=
  h.any fun e ↦ e.teaches = some id

/-! ## What one call of a driver leads to -/

section

variable {N : Nat} (transports : List Transport) (m : Ctl N)

/-- What is answered from outside during a step. -/
structure Answers where
  /-- The events that the poll reports. -/
  batch : List PollEvent
  command : CommandEnv
  pending : PendingEnv
  reads : List ReadEnv
  accept : AcceptEnv

/-- Answers with which everything goes well and nothing comes in, but for the events that
the poll reports. -/
def Answers.quiet (batch : List PollEvent) : Answers where
  batch := batch
  command := .fine []
  pending := .connectedTo (.localhost 80)
  reads := []
  accept := ⟨.err .wouldBlock, .ok (.localhost 80), none⟩

/-- The poll reports what it watches, and the waker if it was woken. -/
def Mux.reports (x : Mux N) : PollEvent → Bool
  | .networkRead id => id ∈ x.watched
  | .networkWrite id => id ∈ x.watched
  | .waker => x.woken

/-- What a driver did: its effects are performed next, and then the tasks, if it returned. -/
def Mux.proceed (x : Mux N) (p : Action Processors) (tasks : List Task) : Mux N :=
  match p.result with
  | .ok ps => { x with processors := ps, phase := .busy (p.effects.map .effect) tasks }
  | .error h => { x with phase := .busy (p.effects.map .effect) [.halt h] }

/-- A remote is no longer registered. -/
def departures (ps : Processors) (p : Action Processors) (id : ResourceId) : History N :=
  match getProcessor transports id, p.result with
  | .ok t, .ok ps' =>
      if ((ps t).remote id).isSome && ((ps' t).remote id).isNone then [.deregistered m t id] else []
  | _, _ => []

/-- A stream is registered. -/
def registrations (p : Action Processors) (a : Arrival) : History N :=
  match getProcessor transports a.id, p.result with
  | .ok t, .ok _ => [.registered m t a]
  | _, _ => []

/-- What happens when a command has been taken from the queue, newest first. -/
def postEntries (ps : Processors) (p : Post) (done : Action Processors) : History N :=
  p.command.target.toList.flatMap (departures transports m ps done) ++
    (p.command.arrival.toList.flatMap (registrations transports m done) ++
      ((arrivals done.effects).map (.created m) ++
        [.dequeued m p (p.command.target.any (isRegistered transports ps))]))

/-- Where one turn of the loop that accepts leads to. -/
def acceptPhase (turn : Action Bool) (t : Transport) (l : t.LocalResource) (id : ResourceId)
    (tasks : List Task) : Phase N :=
  match turn.result with
  | .ok more => .busy (turn.effects.map .effect) (if more then .accept t l id :: tasks else tasks)
  | .error h => .busy (turn.effects.map .effect) [.halt h]

end

/-! ## The node -/

structure Node (N : Nat) where
  running : Bool
  rgen : ResourceIdGenerator
  lgen : ResourceIdGenerator
  /-- The ids that the generators have handed out. -/
  ids : List ResourceId
  /-- The ids that calls of `connect` and `listen` hold and have not posted yet. -/
  held : List ResourceId
  /-- The streams that the operating system has made. -/
  streams : Nat
  muxes : Ctl N → Mux N
  /-- The threads of the user that are between their enqueue and their wake. -/
  posters : Ctl N → Nat
  history : History N

namespace Node

variable {N : Nat}

/-- `create_node_handler` -/
def new (N : Nat) : Node N where
  running := true
  rgen := .new .remote
  lgen := .new .local
  ids := []
  held := []
  streams := 0
  muxes _ := .new N
  posters _ := 0
  history := []

def setMux (s : Node N) (m : Ctl N) (x : Mux N) : Node N :=
  { s with muxes := Function.update s.muxes m x }

def record (s : Node N) (es : List (Entry N)) : Node N := { s with history := es ++ s.history }

/-- The first half of `EventSender::post`.  If the receiver has been dropped the command is
too, and the error of `send` is thrown away. -/
def enqueue (s : Node N) (m : Ctl N) (c : WakerCommand) : Node N :=
  s.setMux m { s.muxes m with
    queue := (s.muxes m).phase.keeps
      ((s.muxes m).queue ++ [⟨c, c.target.any s.history.taught⟩]) }

/-- The second half of `EventSender::post`: wakes coalesce. -/
def wake (s : Node N) (m : Ctl N) : Node N := s.setMux m { s.muxes m with woken := true }

/-- A thread comes to another phase; its receiver is dropped when it ends. -/
def setPhase (s : Node N) (m : Ctl N) (phase : Phase N) : Node N :=
  s.setMux m { s.muxes m with queue := phase.keeps (s.muxes m).queue, phase }

section Step

variable [NeZero N] (transports : List Transport) (s : Node N) (m : Ctl N)

/-- The poll has reported a batch. -/
def polled (batch : List PollEvent) : Node N :=
  s.setMux m { s.muxes m with
    woken := (s.muxes m).woken && !(batch.contains .waker)
    phase := .busy [] (batch.map .event) }

/-- An effect is performed by the thread `m`; `pending` and `tasks` are what is behind it. -/
def perform (pending : List (Pending N)) (tasks : List Task) : Effect → Node N
  | .emit e => (s.setPhase m (.busy pending tasks)).record [.emitted m e]
  | .post id c =>
      (s.setPhase m (.busy (.wake (workerOf id) :: pending) tasks)).enqueue (workerOf id) c
  | .call cb reply => (s.setPhase m (.busy pending tasks)).record [.called m cb reply]
  | .write _ => s.setPhase m (.busy pending tasks)

/-- A poll event of a remote: what its driver does. -/
def processRemote (id : ResourceId) (p : Action Processors) (tasks : List Task) : Node N :=
  (s.setMux m ((s.muxes m).proceed p tasks)).record
    (departures transports m (s.muxes m).processors p id)

/-- The body of the callback of `process_event`. -/
def processEvent (tasks : List Task) (a : Answers) : PollEvent → Node N
  | .networkRead id =>
      match id.resourceType with
      | .remote => s.processRemote transports m id
          (processNetworkRead transports (s.muxes m).processors id a.pending a.reads) tasks
      | .local =>
          match getProcessor transports id with
          | .error h => s.setPhase m (.busy [] [.halt h])
          | .ok t =>
              match ((s.muxes m).processors t).listener id with
              | some l => s.setPhase m (.busy [] (.accept t l.resource id :: tasks))
              | none => s.setPhase m (.busy [] tasks)
  | .networkWrite id => s.processRemote transports m id
      (processNetworkWrite transports (s.muxes m).processors id a.pending) tasks
  | .waker => s.setPhase m (.busy [] (.drain 0 :: tasks))

/-- The command `p`, just taken from the queue, is processed. -/
def processPost (x : Mux N) (p : Post) (tasks : List Task) (env : CommandEnv) : Node N :=
  let done := processCommand transports x.processors p.command (env.withStream ⟨s.streams⟩)
  { s.setMux m ({ x with watched := p.command.watches.toList ++ x.watched }.proceed done tasks) with
    streams := s.streams + 1
    history := postEntries transports m x.processors p done ++ s.history }

/-- What a turn of the loop that accepts has before it: the stream is a new one, and the
id is what the shared generator would hand out. -/
def acceptEnv (id : ResourceId) (env : AcceptEnv) : AcceptEnv :=
  ⟨env.accept.withStream ⟨s.streams⟩, env.localAddr, (s.rgen.generate id.adapterId).1⟩

/-- The generator is asked for an id. -/
def generates (env : AcceptEnv) : Bool := (acceptedOf env.accept).isSome && env.localAddr.isOk

/-- One turn of the loop that accepts. -/
def acceptFrom (t : Transport) (l : t.LocalResource) (id : ResourceId) (tasks : List Task)
    (env : AcceptEnv) : Node N :=
  let env := s.acceptEnv id env
  let turn := Driver.acceptTurn l id env
  { s.setPhase m (acceptPhase turn t l id tasks) with
    streams := s.streams + 1
    rgen := if generates env then (s.rgen.generate id.adapterId).2 else s.rgen
    ids := (if generates env then env.remoteId.toList else []) ++ s.ids
    history := (arrivals turn.effects).map (.created m) ++
      (acceptedOf env.accept).toList.map (fun a ↦ .accepted m id a.1 a.2) ++ s.history }

/-- `MAX_COMMANDS` -/
def maxCommands : Nat := 1024

/-- The next thing that a thread does, if there is one. -/
def stepMux (a : Answers) : Option (Node N) :=
  match (s.muxes m).phase with
  | .test => some (s.setPhase m (if s.running then .polling else .exited))
  | .polling =>
      if a.batch.all (s.muxes m).reports then some (s.polled m a.batch) else none
  | .busy (.effect e :: pending) tasks => some (s.perform m pending tasks e)
  | .busy (.wake m' :: pending) tasks => some ((s.setPhase m (.busy pending tasks)).wake m')
  | .busy [] (.event e :: tasks) => some (s.processEvent transports m tasks a e)
  | .busy [] (.drain count :: tasks) =>
      if count < maxCommands then
        match (s.muxes m).queue with
        | p :: queue => some (s.processPost transports m { s.muxes m with queue } p
            (.drain (count + 1) :: tasks) a.command)
        | [] => some (s.setPhase m (.busy [] tasks))
      else some (s.setPhase m (.busy [] tasks))
  | .busy [] (.accept t l id :: tasks) => some (s.acceptFrom m t l id tasks a.accept)
  | .busy [] (.halt (.panic p) :: _) => some (s.setPhase m (.panicked p))
  | .busy [] (.halt .running :: _) => none
  | .busy [] [] => some (s.setPhase m .test)
  | .exited => none
  | .panicked _ => none

end Step

/-! ## Steps of the node -/

inductive Step (N : Nat) where
  /-- `next_remote_id` or `next_local_id`, called by the user. -/
  | generate (resourceType : ResourceType) (t : Transport)
  /-- The first half of a post by the user. -/
  | enqueue (m : Ctl N) (c : WakerCommand)
  /-- The second half of a post by the user. -/
  | wake (m : Ctl N)
  | stop
  /-- The next thing that a thread of the node does. -/
  | mux (m : Ctl N) (a : Answers)

/-- The id that a call of `connect` or `listen` posts. -/
def postedId : WakerCommand → Option ResourceId
  | .connect _ id _ _ => some id
  | .listen _ id _ _ => some id
  | _ => none

/-- What the operations of `NodeHandler` post, and to which controller; `greet` and `stop` can
be posted by the user to any of them. -/
def Posts [NeZero N] (s : Node N) (m : Ctl N) : WakerCommand → Prop
  | .listen _ id _ _ => m = .master ∧ id ∈ s.held ∧ id.resourceType = .local
  | .connect _ id _ _ => m = .master ∧ id ∈ s.held ∧ id.resourceType = .remote
  | .send endpoint _ => m = workerOf endpoint.resourceId
  | .sendSync endpoint _ _ => m = workerOf endpoint.resourceId
  | .close id =>
      match id.resourceType with
      | .local => m = .master
      | .remote => m = workerOf id
  | .isReady id _ => m = workerOf id
  | .greet _ => True
  | .stop => True
  | .acceptRegisterRemote _ _ _ _ => False
  | .connectRegisterRemote _ _ _ _ _ => False

/-- The generator of a type of resource. -/
def generateId (s : Node N) (resourceType : ResourceType) (t : Transport) : Node N :=
  match resourceType with
  | .remote =>
      let (id, rgen) := s.rgen.generate t.id
      { s with rgen, ids := id.toList ++ s.ids, held := id.toList ++ s.held }
  | .local =>
      let (id, lgen) := s.lgen.generate t.id
      { s with lgen, ids := id.toList ++ s.ids, held := id.toList ++ s.held }

/-- **A step of the node**, if it is enabled. -/
def step [NeZero N] (transports : List Transport) (s : Node N) : Step N → Option (Node N)
  | .generate resourceType t => if t ∈ transports then some (s.generateId resourceType t) else none
  | .enqueue m c => some
      { s.enqueue m c with
        held := (postedId c).elim s.held s.held.erase
        posters := Function.update s.posters m (s.posters m + 1) }
  | .wake m =>
      if 0 < s.posters m then
        some { s.wake m with posters := Function.update s.posters m (s.posters m - 1) }
      else none
  | .stop => some { s.record [.stopped] with running := false }
  | .mux m a => s.stepMux transports m a

end Node

end MessageIo
