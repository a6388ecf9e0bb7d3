import Mathlib.Logic.Relation
import MessageIo.Adapters.Tcp
import MessageIo.Network.Poll
import MessageIo.Network.RemoteSteps

/-!
# TCP sockets under an edge-triggered poll

The poll tells of a change of a socket once.  What the driver does with an event has to last
until the next change: if it leaves bytes unread, or a connection unresolved, then nobody
may ever come back to it.

Here the driver runs beside the operating system.  A socket connects or fails, gets bytes and
the end of the stream, at any time, also while `receive` is in its loop; each change queues an
edge at the remotes that are registered with it; a poll takes edges and makes a batch of
them.  `not_stuck` is the law: what waits at a socket has an edge, or an event in the batch.

It rests on this: bytes are waited for by an edge of the readable kind only, which a write
does not consume, and a read that leaves the remote registered ends with `WouldBlock`.
-/

namespace MessageIo

namespace Tcp

/-! ## Sockets -/

inductive Connection where
  | connecting
  | connected
  | failed
deriving DecidableEq, Repr

/-- What the operating system knows of a socket. -/
structure Socket where
  connection : Connection
  unread : Bytes
  /-- The peer has closed the stream. -/
  eof : Bool
  /-- The bytes that have been read. -/
  taken : Bytes
deriving DecidableEq, Repr

/-- What an edge tells of. -/
structure Edge where
  readable : Bool
  writable : Bool
deriving DecidableEq, Repr

namespace Edge

def none : Edge := ⟨false, false⟩

def or (e e' : Edge) : Edge := ⟨e.readable || e'.readable, e.writable || e'.writable⟩

/-- There is something to tell. -/
def queued (e : Edge) : Bool := e.readable || e.writable

/-- An edge tells of all that another one does. -/
structure Covers (e e' : Edge) : Prop where
  readable : e'.readable = true → e.readable = true
  writable : e'.writable = true → e.writable = true

theorem Covers.refl (e : Edge) : e.Covers e := ⟨id, id⟩

theorem Covers.trans {e e' e'' : Edge} (h : e.Covers e') (h' : e'.Covers e'') : e.Covers e'' :=
  ⟨fun hr ↦ h.readable (h'.readable hr), fun hw ↦ h.writable (h'.writable hw)⟩

theorem Covers.queued {e e' : Edge} (h : e.Covers e') (hq : e'.queued = true) :
    e.queued = true := by
  rcases Bool.or_eq_true _ _ ▸ hq with hr | hw
  · exact Bool.or_eq_true _ _ ▸ .inl (h.readable hr)
  · exact Bool.or_eq_true _ _ ▸ .inr (h.writable hw)

theorem covers_or_left (e e' : Edge) : (e.or e').Covers e :=
  ⟨fun h ↦ by simp [or, h], fun h ↦ by simp [or, h]⟩

theorem covers_or_right (e e' : Edge) : (e.or e').Covers e' :=
  ⟨fun h ↦ by simp [or, h], fun h ↦ by simp [or, h]⟩

end Edge

namespace Socket

/-- Something waits to be read. -/
def Readable (s : Socket) : Prop := s.unread ≠ [] ∨ s.eof = true

/-- What `pending` is to answer. -/
def status (s : Socket) : PendingStatus :=
  match s.connection with
  | .connecting => .incomplete
  | .connected => .ready
  | .failed => .disconnected

/-- **What can happen to a socket**, and the edge that tells of it. -/
inductive Changes (s : Socket) : Socket → Edge → Prop
  | connects {edge : Edge} (h : s.connection = .connecting) (hedge : edge.queued = true) :
      Changes s { s with connection := .connected } edge
  | fails {edge : Edge} (hedge : edge.queued = true) :
      Changes s { s with connection := .failed } edge
  | arrives {edge : Edge} (h : s.connection = .connected) (data : Bytes)
      (hedge : edge.readable = true) : Changes s { s with unread := s.unread ++ data } edge
  | closes {edge : Edge} (h : s.connection = .connected) (hedge : edge.readable = true) :
      Changes s { s with eof := true } edge

/-- **What a read can answer**, and what it leaves. -/
inductive Answers (s : Socket) : ReadCall → Socket → Prop
  | data {data rest : Bytes} (h : s.unread = data ++ rest) (hdata : data ≠ []) :
      Answers s (.ok data) { s with unread := rest, taken := s.taken ++ data }
  | eof (h : s.unread = []) (heof : s.eof = true) : Answers s (.ok []) s
  | wouldBlock (h : s.unread = []) (heof : s.eof = false) : Answers s (.err .wouldBlock) s
  | fails {kind : ErrorKind} (hkind : kind ≠ .wouldBlock) : Answers s (.err kind) s

/-- Bytes imply a connection. -/
def Sound (s : Socket) : Prop := s.Readable → s.connection ≠ .connecting

end Socket

/-! ## The operating system -/

/-- The sockets, and what the poll has not told yet. -/
structure Kernel where
  sockets : TcpStream → Socket
  edges : ResourceId → Edge

namespace Kernel

/-- One socket becomes another one, and the edges too. -/
def become (k : Kernel) (stream : TcpStream) (s : Socket) (edges : ResourceId → Edge) : Kernel :=
  ⟨Function.update k.sockets stream s, edges⟩

@[simp] theorem edges_become (k : Kernel) (stream : TcpStream) (s : Socket)
    (edges : ResourceId → Edge) : (k.become stream s edges).edges = edges := rfl

@[simp] theorem sockets_become_self (k : Kernel) (stream : TcpStream) (s : Socket)
    (edges : ResourceId → Edge) : (k.become stream s edges).sockets stream = s :=
  Function.update_self ..

theorem sockets_become_of_ne (k : Kernel) {stream stream' : TcpStream} (h : stream' ≠ stream)
    (s : Socket) (edges : ResourceId → Edge) :
    (k.become stream s edges).sockets stream' = k.sockets stream' := Function.update_of_ne h ..

/-- An edge of a socket, for those who watch it. -/
def queue (k : Kernel) (watch : ResourceId → Option TcpStream) (stream : TcpStream) (edge : Edge) :
    ResourceId → Edge :=
  fun id ↦ if watch id = some stream then (k.edges id).or edge else k.edges id

/-- The poll has reported the edges of some remotes. -/
def forget (k : Kernel) (ids : List ResourceId) : Kernel :=
  ⟨k.sockets, fun id ↦ if id ∈ ids then .none else k.edges id⟩

theorem edges_forget_of_notMem (k : Kernel) {ids : List ResourceId} {id : ResourceId}
    (h : id ∉ ids) : (k.forget ids).edges id = k.edges id := if_neg h

/-- A remote is added to the poll. -/
def add (k : Kernel) (id : ResourceId) (edge : Edge) : Kernel :=
  ⟨k.sockets, Function.update k.edges id edge⟩

@[simp] theorem edges_add_self (k : Kernel) (id : ResourceId) (edge : Edge) :
    (k.add id edge).edges id = edge := Function.update_self ..

theorem edges_add_of_ne (k : Kernel) {id id' : ResourceId} (h : id' ≠ id) (edge : Edge) :
    (k.add id edge).edges id' = k.edges id' := Function.update_of_ne h ..

/-- A change of any socket. -/
inductive Changes (watch : ResourceId → Option TcpStream) (k : Kernel) : Kernel → Prop
  | intro (stream : TcpStream) {s : Socket} {edge : Edge} (h : (k.sockets stream).Changes s edge) :
      Changes watch k (k.become stream s (k.queue watch stream edge))

/-- **The loop of `receive`**, with changes of sockets between its reads: it is over with the
first answer that ends it. -/
inductive Receives (watch : ResourceId → Option TcpStream) (stream : TcpStream) :
    Kernel → List ReadEnv → Kernel → Prop
  | change {k k' k'' : Kernel} {reads : List ReadEnv} (h : k.Changes watch k')
      (rest : Receives watch stream k' reads k'') : Receives watch stream k reads k''
  | again {k k' : Kernel} (env : ReadEnv) {reads : List ReadEnv} {s : Socket}
      (h : (k.sockets stream).Answers env.read s) (hmore : (readTurn env.read).status = none)
      (rest : Receives watch stream (k.become stream s k.edges) reads k') :
      Receives watch stream k (env :: reads) k'
  | last {k : Kernel} (env : ReadEnv) {s : Socket} {status : ReadStatus}
      (h : (k.sockets stream).Answers env.read s)
      (hlast : (readTurn env.read).status = some status) :
      Receives watch stream k [env] (k.become stream s k.edges)

/-- **What the sockets do by themselves**: more is told, and what is new at a socket that is
watched is told. -/
structure Grows (watch : ResourceId → Option TcpStream) (k k' : Kernel) : Prop where
  edges : ∀ id, (k'.edges id).Covers (k.edges id)
  sound : (∀ stream, (k.sockets stream).Sound) → ∀ stream, (k'.sockets stream).Sound
  readable : ∀ id stream, watch id = some stream → (k'.sockets stream).Readable →
    (k.sockets stream).Readable ∨ (k'.edges id).readable = true
  connection : ∀ id stream, watch id = some stream → (k'.sockets stream).connection ≠ .connecting →
    (k.sockets stream).connection ≠ .connecting ∨ (k'.edges id).queued = true

namespace Grows

variable {watch : ResourceId → Option TcpStream} {k k' k'' : Kernel}

theorem refl (k : Kernel) : Grows watch k k :=
  ⟨fun _ ↦ .refl _, id, fun _ _ _ ↦ .inl, fun _ _ _ ↦ .inl⟩

theorem trans (h : Grows watch k k') (h' : Grows watch k' k'') : Grows watch k k'' where
  edges id := (h'.edges id).trans (h.edges id)
  sound hsound := h'.sound (h.sound hsound)
  readable id stream hwatch hreadable := by
    rcases h'.readable id stream hwatch hreadable with hreadable | hedge
    · exact (h.readable id stream hwatch hreadable).imp_right (h'.edges id).readable
    · exact .inr hedge
  connection id stream hwatch hconnection := by
    rcases h'.connection id stream hwatch hconnection with hconnection | hedge
    · exact (h.connection id stream hwatch hconnection).imp_right (h'.edges id).queued
    · exact .inr hedge

end Grows

/-- Who watches a socket gets its edges. -/
theorem queue_covers {watch : ResourceId → Option TcpStream} (k : Kernel) {id : ResourceId}
    {stream : TcpStream} (h : watch id = some stream) (edge : Edge) :
    (k.queue watch stream edge id).Covers edge := by
  rw [queue, if_pos h]
  exact Edge.covers_or_right _ edge

theorem queue_mono (k : Kernel) (watch : ResourceId → Option TcpStream) (stream : TcpStream)
    (edge : Edge) (id : ResourceId) : (k.queue watch stream edge id).Covers (k.edges id) := by
  rw [queue]
  split
  · exact Edge.covers_or_left _ edge
  · exact .refl _

end Kernel

namespace Socket

variable {s s' : Socket}

/-- A change is told by its edge. -/
theorem Changes.tells {edge : Edge} (h : s.Changes s' edge) :
    (s'.Readable → s.Readable ∨ edge.readable = true) ∧
      (s'.connection ≠ .connecting → s.connection ≠ .connecting ∨ edge.queued = true) := by
  cases h with
  | connects h hedge => exact ⟨.inl, fun _ ↦ .inr hedge⟩
  | fails hedge => exact ⟨.inl, fun _ ↦ .inr hedge⟩
  | arrives h data hedge => exact ⟨fun _ ↦ .inr hedge, .inl⟩
  | closes h hedge => exact ⟨fun _ ↦ .inr hedge, .inl⟩

theorem Changes.sound {edge : Edge} (h : s.Changes s' edge) : s'.Sound := by
  cases h with
  | connects => exact fun _ ↦ nofun
  | fails => exact fun _ ↦ nofun
  | arrives h =>
      intro _ hconnecting
      cases h.symm.trans hconnecting
  | closes h =>
      intro _ hconnecting
      cases h.symm.trans hconnecting

/-- Nothing is read by a change. -/
theorem Changes.taken_eq {edge : Edge} (h : s.Changes s' edge) : s'.taken = s.taken := by
  cases h <;> rfl

/-- A read does not make more to be read. -/
theorem Answers.readable {call : ReadCall} (h : s.Answers call s') (hreadable : s'.Readable) :
    s.Readable := by
  cases h with
  | data h hdata =>
      left
      rw [h]
      exact fun hnil ↦ hdata (List.append_eq_nil_iff.1 hnil).1
  | eof => exact hreadable
  | wouldBlock => exact hreadable
  | fails => exact hreadable

theorem Answers.connection_eq {call : ReadCall} (h : s.Answers call s') :
    s'.connection = s.connection := by
  cases h <;> rfl

/-- **What is read is processed**, all of it. -/
theorem Answers.taken_eq {call : ReadCall} (h : s.Answers call s') :
    s'.taken = s.taken ++ (readTurn call).data.toList.flatten := by
  cases h with
  | data h hdata =>
      rename_i data rest
      cases data with
      | nil => exact absurd rfl hdata
      | cons b data =>
          change _ = s.taken ++ [b :: data].flatten
          rw [List.flatten_singleton]
  | eof => exact (List.append_nil _).symm
  | wouldBlock => exact (List.append_nil _).symm
  | fails =>
      rename_i kind _
      cases kind <;> exact (List.append_nil _).symm

/-- **A read ends with nothing to be read**, if it waits for the next event. -/
theorem Answers.drained {call : ReadCall} (h : s.Answers call s')
    (hturn : (readTurn call).status = some .waitNextEvent) : ¬ s'.Readable := by
  cases h with
  | data h hdata =>
      rename_i data rest
      cases data with
      | nil => exact absurd rfl hdata
      | cons b data => cases hturn
  | eof => cases hturn
  | wouldBlock h heof =>
      rintro (hunread | heof')
      · exact hunread h
      · rw [heof] at heof'
        cases heof'
  | fails hkind =>
      rename_i kind
      cases kind with
      | wouldBlock => exact absurd rfl hkind
      | _ => cases hturn

end Socket

namespace Kernel

variable {watch : ResourceId → Option TcpStream} {k k' : Kernel}

theorem Changes.grows (h : k.Changes watch k') : Grows watch k k' := by
  obtain ⟨stream, h⟩ := h
  rename_i s edge
  constructor
  · exact k.queue_mono watch stream edge
  · intro hsound stream'
    by_cases hstream : stream' = stream
    · rw [hstream, sockets_become_self]
      exact h.sound
    · rw [k.sockets_become_of_ne hstream]
      exact hsound stream'
  · intro id stream' hwatch hreadable
    by_cases hstream : stream' = stream
    · subst hstream
      rw [sockets_become_self] at hreadable
      exact (h.tells.1 hreadable).imp_right (k.queue_covers hwatch edge).readable
    · rw [k.sockets_become_of_ne hstream] at hreadable
      exact .inl hreadable
  · intro id stream' hwatch hconnection
    by_cases hstream : stream' = stream
    · subst hstream
      rw [sockets_become_self] at hconnection
      exact (h.tells.2 hconnection).imp_right (k.queue_covers hwatch edge).queued
    · rw [k.sockets_become_of_ne hstream] at hconnection
      exact .inl hconnection

/-- A change reads nothing. -/
theorem Changes.taken_eq (h : k.Changes watch k') (stream : TcpStream) :
    (k'.sockets stream).taken = (k.sockets stream).taken := by
  obtain ⟨stream', h⟩ := h
  rename_i s edge
  by_cases hstream : stream = stream'
  · rw [hstream, sockets_become_self]
    exact h.taken_eq
  · rw [k.sockets_become_of_ne hstream]

theorem grows_of_answers {stream : TcpStream} {call : ReadCall} {s : Socket}
    (h : (k.sockets stream).Answers call s) :
    Grows watch k (k.become stream s k.edges) := by
  constructor
  · exact fun id ↦ .refl _
  · intro hsound stream'
    by_cases hstream : stream' = stream
    · rw [hstream, sockets_become_self]
      intro hreadable
      rw [h.connection_eq]
      exact hsound stream (h.readable hreadable)
    · rw [k.sockets_become_of_ne hstream]
      exact hsound stream'
  · intro id stream' hwatch hreadable
    by_cases hstream : stream' = stream
    · subst hstream
      rw [sockets_become_self] at hreadable
      exact .inl (h.readable hreadable)
    · rw [k.sockets_become_of_ne hstream] at hreadable
      exact .inl hreadable
  · intro id stream' hwatch hconnection
    by_cases hstream : stream' = stream
    · subst hstream
      rw [sockets_become_self, h.connection_eq] at hconnection
      exact .inl hconnection
    · rw [k.sockets_become_of_ne hstream] at hconnection
      exact .inl hconnection

/-- **What a whole `receive` does**: it processes the bytes that it takes, and it waits for the
next event only when nothing is left. -/
structure Received (watch : ResourceId → Option TcpStream) (stream : TcpStream) (k : Kernel)
    (outcome : Proc Bytes Halt (ReadStatus × RemoteResource)) (k' : Kernel) : Prop where
  grows : Grows watch k k'
  taken : (k'.sockets stream).taken = (k.sockets stream).taken ++ outcome.effects.flatten
  others : ∀ stream', stream' ≠ stream → (k'.sockets stream').taken = (k.sockets stream').taken
  drained : ∀ r, outcome.result = .ok (.waitNextEvent, r) → ¬ (k'.sockets stream).Readable

/-- One turn of `receive`, and what comes behind it. -/
theorem receive_cons (r : RemoteResource) (env : ReadEnv) (reads : List ReadEnv) :
    Remote.receive r (env :: reads) =
      (Proc.perform (readTurn env.read).data.toList >>= fun _ ↦
        match (readTurn env.read).status with
        | none => Remote.receive r reads
        | some status => pure (status, r)) := rfl

/-- A turn of `receive` that goes on. -/
theorem receive_again (r : RemoteResource) {env : ReadEnv} (reads : List ReadEnv)
    (h : (readTurn env.read).status = none) :
    Remote.receive r (env :: reads) =
      ⟨(readTurn env.read).data.toList ++ (Remote.receive r reads).effects,
        (Remote.receive r reads).result⟩ := by
  rw [receive_cons, h]
  rfl

/-- The last turn of `receive`. -/
theorem receive_last (r : RemoteResource) {env : ReadEnv} {status : ReadStatus}
    (reads : List ReadEnv) (h : (readTurn env.read).status = some status) :
    Remote.receive r (env :: reads) =
      ⟨(readTurn env.read).data.toList, .ok (status, r)⟩ := by
  rw [receive_cons, h]
  exact Proc.ext (List.append_nil _) rfl

theorem Receives.received {stream : TcpStream} {reads : List ReadEnv}
    (h : Receives watch stream k reads k') (r : RemoteResource) :
    Received watch stream k (Remote.receive r reads) k' := by
  induction h with
  | change h rest ih =>
      exact ⟨h.grows.trans ih.grows, by rw [ih.taken, h.taken_eq],
        fun stream' hne ↦ (ih.others stream' hne).trans (h.taken_eq stream'), ih.drained⟩
  | again env h hmore rest ih =>
      rw [receive_again r _ hmore]
      refine ⟨(grows_of_answers h).trans ih.grows, ?_, fun stream' hne ↦ ?_, ih.drained⟩
      · rw [ih.taken, sockets_become_self, h.taken_eq, List.append_assoc, List.flatten_append]
      · rw [ih.others stream' hne, sockets_become_of_ne _ hne]
  | last env h hlast =>
      rw [receive_last r _ hlast]
      refine ⟨grows_of_answers h, ?_, fun stream' hne ↦ ?_, fun r' hr' ↦ ?_⟩
      · rw [sockets_become_self, h.taken_eq]
      · rw [sockets_become_of_ne _ hne]
      · rw [sockets_become_self]
        cases hr'
        exact h.drained hlast

end Kernel

/-! ## The driver beside the operating system -/

structure World where
  driver : TcpDriver
  kernel : Kernel
  /-- The events of the last poll that are still to be processed. -/
  batch : List PollEvent
  /-- The remotes that have ever been registered, with their streams. -/
  registered : List (ResourceId × TcpStream)
  /-- What the driver has done. -/
  told : List Effect

namespace World

/-- Nothing is registered, and nothing has been read. -/
def new (kernel : Kernel) : World := ⟨.new, kernel, [], [], []⟩

/-- The streams that the remotes of a driver watch. -/
def watch (d : TcpDriver) (id : ResourceId) : Option TcpStream :=
  (d.remote id).map fun r ↦ r.resource.stream

/-- The stream that a register command brings. -/
def brings : Driver.Call → Option TcpStream
  | .acceptRegisterRemote _ _ stream _ _ => some stream
  | .connectRegisterRemote _ _ stream _ _ _ => some stream
  | _ => none

/-- `pending` tells the state of the socket, if it is asked. -/
def PendingAnswers (w : World) (id : ResourceId) (env : PendingEnv) : Prop :=
  ∀ r, w.driver.remote id = some r → r.properties.ready = false →
    checkTcpStreamReady env = (w.kernel.sockets r.resource.stream).status

/-- `receive` is called, if the remote is ready or becomes so. -/
inductive ReadAnswers (w : World) (id : ResourceId) (env : PendingEnv) (reads : List ReadEnv) :
    Kernel → Prop
  | unregistered (hr : w.driver.remote id = none) : ReadAnswers w id env reads w.kernel
  | unready {r : Register RemoteResource RemoteProperties} (hr : w.driver.remote id = some r)
      (hready : r.properties.ready = false) (hstatus : checkTcpStreamReady env ≠ .ready) :
      ReadAnswers w id env reads w.kernel
  | receives {r : Register RemoteResource RemoteProperties} {k : Kernel}
      (hr : w.driver.remote id = some r)
      (hready : r.properties.ready = true ∨ checkTcpStreamReady env = .ready)
      (h : w.kernel.Receives (watch w.driver) r.resource.stream reads k) :
      ReadAnswers w id env reads k

/-- What the poll holds for a socket when a remote is registered with it. -/
structure Starts (s : Socket) (edge : Edge) : Prop where
  readable : s.Readable → edge.readable = true
  connection : s.connection ≠ .connecting → edge.queued = true

/-- **One step**: a socket changes, the poll is asked when its last batch is done, or the
driver is called. -/
inductive Step (w : World) : World → Prop
  | change {k : Kernel} (h : w.kernel.Changes (watch w.driver) k) : Step w { w with kernel := k }
  /-- The poll reports some of its edges, and forgets them. -/
  | poll (reports : List (ResourceId × Edge)) (hbatch : w.batch = [])
      (hreports : ∀ p ∈ reports, p.2.Covers (w.kernel.edges p.1)) :
      Step w { w with
        kernel := w.kernel.forget (reports.map Prod.fst)
        batch := reports.flatMap fun p ↦ pollEvents p.1 p.2.readable p.2.writable }
  | read {id : ResourceId} (env : PendingEnv) {reads : List ReadEnv} (accepts : List AcceptEnv)
      {batch : List PollEvent} {k : Kernel} {d : TcpDriver}
      (hbatch : w.batch = .networkRead id :: batch) (hpending : w.PendingAnswers id env)
      (hreads : w.ReadAnswers id env reads k)
      (hcall : (w.driver.call (.read id env reads accepts)).result = .ok d) :
      Step w ⟨d, k, batch, w.registered,
        w.told ++ (w.driver.call (.read id env reads accepts)).effects⟩
  | write {id : ResourceId} (env : PendingEnv) {batch : List PollEvent} {d : TcpDriver}
      (hbatch : w.batch = .networkWrite id :: batch) (hpending : w.PendingAnswers id env)
      (hcall : (w.driver.call (.write id env)).result = .ok d) :
      Step w ⟨d, w.kernel, batch, w.registered,
        w.told ++ (w.driver.call (.write id env)).effects⟩
  | waker {batch : List PollEvent} (hbatch : w.batch = .waker :: batch) :
      Step w { w with batch }
  /-- A remote is registered, with an id and a stream of its own. -/
  | register {c : Driver.Call} {endpoint : Endpoint} {localId : Option ResourceId}
      {stream : TcpStream} {edge : Edge} {d : TcpDriver}
      (hc : c.registers = some (endpoint, localId)) (hstream : brings c = some stream)
      (htype : endpoint.resourceId.resourceType = .remote)
      (hid : endpoint.resourceId ∉ w.registered.map Prod.fst)
      (hnew : stream ∉ w.registered.map Prod.snd)
      (hedge : Starts (w.kernel.sockets stream) edge) (hcall : (w.driver.call c).result = .ok d) :
      Step w ⟨d, w.kernel.add endpoint.resourceId edge, w.batch,
        (endpoint.resourceId, stream) :: w.registered,
        w.told ++ (w.driver.call c).effects⟩
  /-- Any other command. -/
  | command {c : Driver.Call} {d : TcpDriver} (hpolls : c.polls = none)
      (hregisters : c.registers = none) (hcall : (w.driver.call c).result = .ok d) :
      Step w ⟨d, w.kernel, w.batch, w.registered, w.told ++ (w.driver.call c).effects⟩

/-- The sockets are as they are made: nothing has been read, and data implies a connection. -/
structure Fresh (k : Kernel) : Prop where
  sound : ∀ stream, (k.sockets stream).Sound
  untaken : ∀ stream, (k.sockets stream).taken = []

/-- **What waits at a socket is told**: by an edge, or by an event of the batch. -/
structure Told (k : Kernel) (batch : List PollEvent) (id : ResourceId)
    (r : Register RemoteResource RemoteProperties) : Prop where
  readable : (k.sockets r.resource.stream).Readable →
    (k.edges id).readable = true ∨ .networkRead id ∈ batch
  pending : r.properties.ready = false →
    (k.sockets r.resource.stream).connection ≠ .connecting →
      (k.edges id).queued = true ∨ .networkRead id ∈ batch ∨ .networkWrite id ∈ batch

/-- What is known of the remotes that have ever been registered. -/
structure Books (d : TcpDriver) (sockets : TcpStream → Socket)
    (registered : List (ResourceId × TcpStream)) (told : List Effect) : Prop where
  known : ∀ id r, d.remote id = some r → (id, r.resource.stream) ∈ registered
  types : ∀ p ∈ registered, p.1.resourceType = .remote
  ids : (registered.map Prod.fst).Nodup
  streams : (registered.map Prod.snd).Nodup
  payload : ∀ p ∈ registered, (messagesOf p.1 told).flatten = (sockets p.2).taken
  silent : ∀ id, id.resourceType = .remote → id ∉ registered.map Prod.fst → messagesOf id told = []
  untaken : ∀ stream, stream ∉ registered.map Prod.snd → (sockets stream).taken = []

/-- **The invariant.** -/
structure Law (w : World) : Prop where
  books : Books w.driver w.kernel.sockets w.registered w.told
  sound : ∀ stream, (w.kernel.sockets stream).Sound
  told : ∀ id r, w.driver.remote id = some r → Told w.kernel w.batch id r

theorem law_new {k : Kernel} (h : Fresh k) : (new k).Law where
  books :=
    { known := fun _ _ h ↦ nomatch h
      types := fun _ h ↦ absurd h List.not_mem_nil
      ids := List.nodup_nil
      streams := List.nodup_nil
      payload := fun _ h ↦ absurd h List.not_mem_nil
      silent := fun _ _ _ ↦ rfl
      untaken := fun stream _ ↦ h.untaken stream }
  sound := h.sound
  told _ _ h := nomatch h

/-! ### What is told stays told -/

section Told

variable {k k' : Kernel} {batch : List PollEvent} {id : ResourceId}
  {r r' : Register RemoteResource RemoteProperties}

theorem Told.grows {watch : ResourceId → Option TcpStream} (h : Told k batch id r)
    (hgrows : Kernel.Grows watch k k') (hwatch : watch id = some r.resource.stream) :
    Told k' batch id r where
  readable hreadable := by
    rcases hgrows.readable _ _ hwatch hreadable with hreadable | hedge
    · exact (h.readable hreadable).imp_left (hgrows.edges id).readable
    · exact .inl hedge
  pending hready hconnection := by
    rcases hgrows.connection _ _ hwatch hconnection with hconnection | hedge
    · exact (h.pending hready hconnection).imp_left (hgrows.edges id).queued
    · exact .inl hedge

/-- An event of another remote is done. -/
theorem Told.tail {e : PollEvent} (h : Told k (e :: batch) id r) (hread : e ≠ .networkRead id)
    (hwrite : e ≠ .networkWrite id) : Told k batch id r where
  readable hreadable := (h.readable hreadable).imp_right fun hmem ↦
    (List.mem_cons.1 hmem).resolve_left hread.symm
  pending hready hconnection := (h.pending hready hconnection).imp_right fun hmem ↦
    hmem.imp (fun hmem ↦ (List.mem_cons.1 hmem).resolve_left hread.symm)
      fun hmem ↦ (List.mem_cons.1 hmem).resolve_left hwrite.symm

/-- **A write** leaves to the read what is to be read. -/
theorem Told.afterWrite (h : Told k (.networkWrite id :: batch) id r)
    (hready : r'.properties.ready = true) (hstream : r'.resource.stream = r.resource.stream) :
    Told k batch id r' where
  readable hreadable := by
    rw [hstream] at hreadable
    exact (h.readable hreadable).imp_right fun hmem ↦
      (List.mem_cons.1 hmem).resolve_left fun heq ↦ PollEvent.noConfusion heq
  pending hunready := by
    rw [hready] at hunready
    cases hunready

/-- **Nothing waits** at a socket that is still connecting. -/
theorem told_of_connecting (hsound : (k.sockets r.resource.stream).Sound)
    (h : (k.sockets r.resource.stream).connection = .connecting) : Told k batch id r where
  readable hreadable := absurd h (hsound hreadable)
  pending _ hconnection := absurd h hconnection

/-- **Nothing waits** at a remote that has been read to the end. -/
theorem told_of_drained (hready : r.properties.ready = true)
    (h : ¬ (k.sockets r.resource.stream).Readable) : Told k batch id r where
  readable hreadable := absurd hreadable h
  pending hunready := by
    rw [hready] at hunready
    cases hunready

end Told

theorem connecting_of_incomplete {s : Socket} (h : s.status = .incomplete) :
    s.connection = .connecting := by
  rw [Socket.status] at h
  cases hconnection : s.connection with
  | connecting => rfl
  | connected =>
      rw [hconnection] at h
      cases h
  | failed =>
      rw [hconnection] at h
      cases h

/-- **What the front of a poll event leaves** of a remote: it was or is ready now, or it is not
and then, if it is still there, its socket is still connecting. -/
theorem resolves_cases {env : PendingEnv} {r r' : Register RemoteResource RemoteProperties}
    {there : Bool} (h : Driver.Resolves env r r' there) :
    r'.resource = r.resource ∧
      (r'.properties.ready = true ∧
          (r.properties.ready = true ∨ checkTcpStreamReady env = .ready) ∨
        r.properties.ready = false ∧ r'.properties.ready = false ∧
          checkTcpStreamReady env ≠ .ready ∧
            (there = true → checkTcpStreamReady env = .incomplete)) := by
  cases h with
  | wasReady h => exact ⟨rfl, .inl ⟨h, .inl h⟩⟩
  | ready h hpending =>
      obtain ⟨hstatus, hresource⟩ := Prod.mk.inj (Except.ok.inj hpending)
      exact ⟨hresource.symm, .inl ⟨rfl, .inr hstatus⟩⟩
  | incomplete h hpending =>
      obtain ⟨hstatus, hresource⟩ := Prod.mk.inj (Except.ok.inj hpending)
      refine ⟨hresource.symm, .inr ⟨h, h, ?_, fun _ ↦ hstatus⟩⟩
      rw [hstatus]
      exact PendingStatus.noConfusion
  | disconnected h hpending =>
      obtain ⟨hstatus, hresource⟩ := Prod.mk.inj (Except.ok.inj hpending)
      refine ⟨hresource.symm, .inr ⟨h, h, ?_, nofun⟩⟩
      rw [hstatus]
      exact PendingStatus.noConfusion

/-- `receive` leaves the resource as it is. -/
theorem receive_resource {r r' : RemoteResource} {reads : List ReadEnv} {status : ReadStatus}
    (h : (Remote.receive r reads).result = .ok (status, r')) : r' = r := by
  induction reads with
  | nil => cases h
  | cons env reads ih =>
      cases hturn : (readTurn env.read).status with
      | none =>
          rw [Kernel.receive_again r reads hturn] at h
          exact ih h
      | some status' =>
          rw [Kernel.receive_last r reads hturn] at h
          cases h
          rfl

/-- **What a read event does** to a remote and to its socket. -/
structure ReadDone (w : World) (k : Kernel) (id : ResourceId)
    (r r' : Register RemoteResource RemoteProperties) (data : List Bytes) (there : Bool) :
    Prop where
  stream : r'.resource.stream = r.resource.stream
  grows : w.kernel.Grows (watch w.driver) k
  taken : (k.sockets r.resource.stream).taken =
    (w.kernel.sockets r.resource.stream).taken ++ data.flatten
  others : ∀ stream, stream ≠ r.resource.stream →
    (k.sockets stream).taken = (w.kernel.sockets stream).taken
  told : there = true → (∀ stream, (w.kernel.sockets stream).Sound) →
    ∀ batch, Told k batch id r'

section Read

variable {w : World} {k : Kernel} {id : ResourceId} {env : PendingEnv} {reads : List ReadEnv}
  {r r' : Register RemoteResource RemoteProperties} {data : List Bytes} {there : Bool}

/-- **A remote that is or becomes ready** receives what its socket gives. -/
theorem ReadAnswers.received (hanswers : w.ReadAnswers id env reads k)
    (hr : w.driver.remote id = some r) (hresolves : Driver.Resolves env r r' there)
    (hready : r'.properties.ready = true) :
    r'.resource = r.resource ∧ Kernel.Received (watch w.driver) r.resource.stream w.kernel
      (Remote.receive r'.resource reads) k := by
  obtain ⟨hresource, ⟨-, hwas⟩ | ⟨-, hunready, -⟩⟩ := resolves_cases hresolves
  · refine ⟨hresource, ?_⟩
    cases hanswers with
    | unregistered hr' => cases hr.symm.trans hr'
    | unready hr' hunready hstatus =>
        cases hr.symm.trans hr'
        rcases hwas with hwas | hwas
        · rw [hunready] at hwas
          cases hwas
        · exact absurd hwas hstatus
    | receives hr' _ hreceives =>
        cases hr.symm.trans hr'
        exact hreceives.received r'.resource
  · rw [hready] at hunready
    cases hunready

/-- Of one that is not, nothing is read. -/
theorem ReadAnswers.unread (hanswers : w.ReadAnswers id env reads k)
    (hr : w.driver.remote id = some r) (hwas : r.properties.ready = false)
    (hstatus : checkTcpStreamReady env ≠ .ready) : k = w.kernel := by
  cases hanswers with
  | unregistered => rfl
  | unready => rfl
  | receives hr' hready =>
      cases hr.symm.trans hr'
      rcases hready with hready | hready
      · rw [hwas] at hready
        cases hready
      · exact absurd hready hstatus

theorem readDone (hr : w.driver.remote id = some r) (hpending : w.PendingAnswers id env)
    (hanswers : w.ReadAnswers id env reads k) (h : Driver.Reads env reads r data r' there) :
    ReadDone w k id r r' data there := by
  cases h with
  | unready hresolves hunready =>
      obtain ⟨hresource, ⟨hready, -⟩ | ⟨hwas, -, hstatus, hincomplete⟩⟩ := resolves_cases hresolves
      · rw [hready] at hunready
        cases hunready
      · obtain rfl := hanswers.unread hr hwas hstatus
        refine ⟨congrArg _ hresource, .refl _, (List.append_nil _).symm, fun _ _ ↦ rfl,
          fun hthere hsound batch ↦ told_of_connecting (hsound _) ?_⟩
        rw [hresource]
        exact connecting_of_incomplete ((hpending r hr hwas).symm.trans (hincomplete hthere))
  | waits hresolves hready hreceive =>
      obtain ⟨hresource, hreceived⟩ := hanswers.received hr hresolves hready
      have hsame := receive_resource hreceive
      refine ⟨congrArg _ (hsame.trans hresource), hreceived.grows, hreceived.taken,
        hreceived.others, fun _ _ batch ↦ told_of_drained hready ?_⟩
      rw [hsame, hresource]
      exact hreceived.drained _ hreceive
  | leaves hresolves hready hreceive =>
      obtain ⟨hresource, hreceived⟩ := hanswers.received hr hresolves hready
      exact ⟨congrArg _ ((receive_resource hreceive).trans hresource), hreceived.grows,
        hreceived.taken, hreceived.others, by rintro ⟨⟩⟩

end Read

/-- The stream of a remote is the one that its command brings. -/
theorem stream_of_made {c : Driver.Call} {resource : RemoteResource} {stream : TcpStream}
    (h : Driver.Made LocalResource c resource) (hstream : brings c = some stream) :
    resource.stream = stream := by
  cases c with
  | acceptRegisterRemote localPair remotePair stream' payload env =>
      cases hstream
      cases payload <;> cases h
      rfl
  | connectRegisterRemote localAddr remotePair stream' payload cb env =>
      cases hstream
      cases payload <;> cases h
      rfl
  | _ => cases hstream

/-! ### The books are kept -/

section Books

variable {d d' : TcpDriver} {sockets sockets' : TcpStream → Socket}
  {registered : List (ResourceId × TcpStream)} {told es : List Effect}

/-- The remotes of `d'` are remotes of `d`, with the same streams. -/
def Remains (d d' : TcpDriver) : Prop :=
  ∀ id r', d'.remote id = some r' →
    ∃ r, d.remote id = some r ∧ r'.resource.stream = r.resource.stream

theorem remains_of_becomes {id : ResourceId} {r r' : Register RemoteResource RemoteProperties}
    {there : Bool} (hr : d.remote id = some r) (h : Driver.Becomes id d d' r' there)
    (hstream : there = true → r'.resource.stream = r.resource.stream) : Remains d d' := by
  intro id' r₁ hr₁
  by_cases hid : id' = id
  · subst hid
    rw [h.self] at hr₁
    cases there with
    | false => cases hr₁
    | true =>
        cases hr₁
        exact ⟨r, hr, hstream rfl⟩
  · rw [h.others id' hid] at hr₁
    exact ⟨r₁, hr₁, rfl⟩

theorem remains_of_same (h : ∀ id, d'.remote id = d.remote id) : Remains d d' := by
  intro id r hr
  rw [h id] at hr
  exact ⟨r, hr, rfl⟩

/-- **A call**: what it tells is what it reads. -/
theorem Books.call (h : Books d sockets registered told) (hremains : Remains d d')
    (hpayload : ∀ p ∈ registered, (sockets' p.2).taken =
      (sockets p.2).taken ++ (messagesOf p.1 es).flatten)
    (hsilent : ∀ id, id.resourceType = .remote → id ∉ registered.map Prod.fst →
      messagesOf id es = [])
    (huntaken : ∀ stream, stream ∉ registered.map Prod.snd →
      (sockets' stream).taken = (sockets stream).taken) :
    Books d' sockets' registered (told ++ es) where
  known id r' hr' := by
    obtain ⟨r, hr, hstream⟩ := hremains id r' hr'
    rw [hstream]
    exact h.known id r hr
  types := h.types
  ids := h.ids
  streams := h.streams
  payload p hp := by rw [messagesOf_append, List.flatten_append, h.payload p hp, hpayload p hp]
  silent id hid hnot := by
    rw [messagesOf_append, h.silent id hid hnot, hsilent id hid hnot]
    rfl
  untaken stream hnot := (huntaken stream hnot).trans (h.untaken stream hnot)

/-- A call that tells nothing. -/
theorem Books.quiet (h : Books d sockets registered told) (hremains : Remains d d')
    (hquiet : ∀ id, id.resourceType = .remote → messagesOf id es = []) :
    Books d' sockets registered (told ++ es) := by
  refine h.call hremains (fun p hp ↦ ?_) (fun id hid _ ↦ hquiet id hid) fun _ _ ↦ rfl
  rw [hquiet p.1 (h.types p hp)]
  exact (List.append_nil _).symm

/-- A remote keeps its stream. -/
theorem Books.stream_eq (h : Books d sockets registered told) {id : ResourceId}
    {r : Register RemoteResource RemoteProperties} (hr : d.remote id = some r)
    {p : ResourceId × TcpStream} (hp : p ∈ registered) (hid : p.1 = id) :
    p.2 = r.resource.stream :=
  congrArg Prod.snd (List.inj_on_of_nodup_map h.ids hp (h.known id r hr) hid)

/-- The streams of two remotes differ. -/
theorem Books.stream_ne (h : Books d sockets registered told) {id : ResourceId}
    {r : Register RemoteResource RemoteProperties} (hr : d.remote id = some r)
    {p : ResourceId × TcpStream} (hp : p ∈ registered) (hid : p.1 ≠ id) :
    p.2 ≠ r.resource.stream :=
  fun heq ↦ hid (congrArg Prod.fst (List.inj_on_of_nodup_map h.streams hp (h.known id r hr) heq))

/-- A registered remote has the id of a remote. -/
theorem Books.remote_eq_none (h : Books d sockets registered told) {id : ResourceId}
    (hid : id.resourceType = .remote → d.remote id = none) : d.remote id = none := by
  cases hr : d.remote id with
  | none => rfl
  | some r =>
      rw [hid (h.types _ (h.known id r hr))] at hr
      cases hr

/-- **A read** of one remote. -/
theorem Books.read {w : World} {k : Kernel}
    (h : Books w.driver w.kernel.sockets registered told) {id : ResourceId}
    {r r' : Register RemoteResource RemoteProperties} {there : Bool}
    (hr : w.driver.remote id = some r) (hbecomes : Driver.Becomes id w.driver d' r' there)
    (hdone : ReadDone w k id r r' (messagesOf id es) there)
    (hquiet : ∀ id', id ≠ id' → messagesOf id' es = []) :
    Books d' k.sockets registered (told ++ es) := by
  refine h.call (remains_of_becomes hr hbecomes fun _ ↦ hdone.stream) (fun p hp ↦ ?_) ?_ ?_
  · by_cases hid : p.1 = id
    · rw [h.stream_eq hr hp hid, hid]
      exact hdone.taken
    · rw [hquiet p.1 (Ne.symm hid), hdone.others p.2 (h.stream_ne hr hp hid)]
      exact (List.append_nil _).symm
  · intro id' _ hnot
    refine hquiet id' ?_
    rintro rfl
    exact hnot (List.mem_map_of_mem (h.known _ r hr))
  · intro stream hnot
    refine hdone.others stream ?_
    rintro rfl
    exact hnot (List.mem_map_of_mem (h.known id r hr))

/-- **A registration** opens an empty page. -/
theorem Books.register (h : Books d sockets registered told) {id : ResourceId} {stream : TcpStream}
    (htype : id.resourceType = .remote) (hid : id ∉ registered.map Prod.fst)
    (hnew : stream ∉ registered.map Prod.snd)
    (hquiet : ∀ id', id'.resourceType = .remote → messagesOf id' es = [])
    (hknown : ∀ id' r, d'.remote id' = some r → (id', r.resource.stream) = (id, stream) ∨
      d.remote id' = some r) : Books d' sockets ((id, stream) :: registered) (told ++ es) where
  known id' r hr := by
    rcases hknown id' r hr with heq | hr
    · exact List.mem_cons.2 (.inl heq)
    · exact List.mem_cons_of_mem _ (h.known id' r hr)
  types p hp := by
    rcases List.mem_cons.1 hp with rfl | hp
    · exact htype
    · exact h.types p hp
  ids := List.nodup_cons.2 ⟨hid, h.ids⟩
  streams := List.nodup_cons.2 ⟨hnew, h.streams⟩
  payload p hp := by
    rcases List.mem_cons.1 hp with rfl | hp
    · rw [messagesOf_append, h.silent id htype hid, hquiet id htype, h.untaken stream hnew]
      rfl
    · rw [messagesOf_append, hquiet p.1 (h.types p hp), List.append_nil, h.payload p hp]
  silent id' hid' hnot := by
    rw [messagesOf_append, h.silent id' hid' fun hmem ↦ hnot (List.mem_cons_of_mem _ hmem),
      hquiet id' hid']
    rfl
  untaken stream' hnot := h.untaken stream' fun hmem ↦ hnot (List.mem_cons_of_mem _ hmem)

end Books

/-! ### One step, and all of them -/

/-- What an edge tells becomes events. -/
theorem mem_batch {reports : List (ResourceId × Edge)} {p : ResourceId × Edge} (hp : p ∈ reports) :
    (p.2.readable = true →
      .networkRead p.1 ∈ reports.flatMap fun p ↦ pollEvents p.1 p.2.readable p.2.writable) ∧
        (p.2.writable = true →
          .networkWrite p.1 ∈ reports.flatMap fun p ↦
            pollEvents p.1 p.2.readable p.2.writable) := by
  constructor
  · intro hreadable
    refine List.mem_flatMap.2 ⟨p, hp, List.mem_append_left _ ?_⟩
    rw [if_pos hreadable]
    exact List.mem_singleton_self _
  · intro hwritable
    refine List.mem_flatMap.2 ⟨p, hp, List.mem_append_right _ ?_⟩
    rw [if_pos hwritable]
    exact List.mem_singleton_self _

/-- **A poll** turns edges into events of the batch. -/
theorem Told.poll {k : Kernel} {id : ResourceId} {r : Register RemoteResource RemoteProperties}
    (h : Told k [] id r) {reports : List (ResourceId × Edge)}
    (hreports : ∀ p ∈ reports, p.2.Covers (k.edges p.1)) :
    Told (k.forget (reports.map Prod.fst))
      (reports.flatMap fun p ↦ pollEvents p.1 p.2.readable p.2.writable) id r := by
  by_cases hid : id ∈ reports.map Prod.fst
  · obtain ⟨p, hp, rfl⟩ := List.mem_map.1 hid
    constructor
    · intro hreadable
      have hedge := (h.readable hreadable).resolve_right List.not_mem_nil
      exact .inr ((mem_batch hp).1 ((hreports p hp).readable hedge))
    · intro hready hconnection
      have hedge := (h.pending hready hconnection).resolve_right fun hmem ↦
        hmem.elim List.not_mem_nil List.not_mem_nil
      right
      rcases Bool.or_eq_true _ _ ▸ (hreports p hp).queued hedge with hreadable | hwritable
      · exact .inl ((mem_batch hp).1 hreadable)
      · exact .inr ((mem_batch hp).2 hwritable)
  · constructor
    · intro hreadable
      left
      rw [k.edges_forget_of_notMem hid]
      exact (h.readable hreadable).resolve_right List.not_mem_nil
    · intro hready hconnection
      left
      rw [k.edges_forget_of_notMem hid]
      exact (h.pending hready hconnection).resolve_right fun hmem ↦
        hmem.elim List.not_mem_nil List.not_mem_nil

/-- What is told of the others stays told when one remote changes. -/
theorem told_of_becomes {d d' : TcpDriver} {k : Kernel} {batch : List PollEvent}
    {id : ResourceId} {r' : Register RemoteResource RemoteProperties} {there : Bool}
    (h : Driver.Becomes id d d' r' there)
    (hothers : ∀ id' r, id' ≠ id → d.remote id' = some r → Told k batch id' r)
    (hself : there = true → Told k batch id r') {id' : ResourceId}
    {r : Register RemoteResource RemoteProperties} (hr : d'.remote id' = some r) :
    Told k batch id' r := by
  by_cases hid : id' = id
  · subst hid
    rw [h.self] at hr
    cases there with
    | false => cases hr
    | true =>
        cases hr
        exact hself rfl
  · rw [h.others id' hid] at hr
    exact hothers id' r hid hr

theorem Law.change {w : World} (hlaw : w.Law) {k : Kernel}
    (h : w.kernel.Changes (watch w.driver) k) : Law { w with kernel := k } where
  books := by
    have hbooks : Books w.driver k.sockets w.registered (w.told ++ []) :=
      hlaw.books.call (remains_of_same fun _ ↦ rfl)
        (fun p _ ↦ (h.taken_eq p.2).trans (List.append_nil _).symm) (fun _ _ _ ↦ rfl)
        fun stream _ ↦ h.taken_eq stream
    rwa [List.append_nil] at hbooks
  sound := h.grows.sound hlaw.sound
  told id r hr := (hlaw.told id r hr).grows h.grows (by rw [watch, hr, Option.map_some])

theorem Law.read {w : World} (hlaw : w.Law) {id : ResourceId} {env : PendingEnv}
    {reads : List ReadEnv} {accepts : List AcceptEnv} {batch : List PollEvent} {k : Kernel}
    {d : TcpDriver} (hbatch : w.batch = .networkRead id :: batch)
    (hpending : w.PendingAnswers id env) (hanswers : w.ReadAnswers id env reads k)
    (hcall : (w.driver.call (.read id env reads accepts)).result = .ok d) :
    Law ⟨d, k, batch, w.registered,
      w.told ++ (w.driver.call (.read id env reads accepts)).effects⟩ := by
  have htail : ∀ id' r, id' ≠ id → w.driver.remote id' = some r → Told w.kernel batch id' r := by
    intro id' r hid hr
    have htold := hlaw.told id' r hr
    rw [hbatch] at htold
    exact htold.tail (fun heq ↦ hid (PollEvent.networkRead.inj heq).symm) PollEvent.noConfusion
  cases Driver.call_done hcall with
  | read hr hreads hbecomes hquiet =>
      have hdone := readDone hr hpending hanswers hreads
      refine ⟨hlaw.books.read hr hbecomes hdone hquiet, hdone.grows.sound hlaw.sound,
        fun id' r hr' ↦ ?_⟩
      refine told_of_becomes hbecomes (fun id' r hid hr' ↦ ?_)
        (fun hthere ↦ hdone.told hthere hlaw.sound batch) hr'
      exact (htail id' r hid hr').grows hdone.grows (by rw [watch, hr', Option.map_some])
  | same hsame hquiet hidle =>
      have hnone := hlaw.books.remote_eq_none (hidle id rfl)
      have hk : k = w.kernel := by
        cases hanswers with
        | unregistered => rfl
        | unready hr => cases hr.symm.trans hnone
        | receives hr => cases hr.symm.trans hnone
      subst hk
      refine ⟨hlaw.books.quiet (remains_of_same hsame) hquiet, hlaw.sound, fun id' r hr ↦ ?_⟩
      rw [hsame id'] at hr
      refine htail id' r ?_ hr
      rintro rfl
      cases hr.symm.trans hnone
  | registers hc => cases hc

theorem Law.write {w : World} (hlaw : w.Law) {id : ResourceId} {env : PendingEnv}
    {batch : List PollEvent} {d : TcpDriver} (hbatch : w.batch = .networkWrite id :: batch)
    (hpending : w.PendingAnswers id env)
    (hcall : (w.driver.call (.write id env)).result = .ok d) :
    Law ⟨d, w.kernel, batch, w.registered, w.told ++ (w.driver.call (.write id env)).effects⟩ := by
  have htail : ∀ id' r, id' ≠ id → w.driver.remote id' = some r → Told w.kernel batch id' r := by
    intro id' r hid hr
    have htold := hlaw.told id' r hr
    rw [hbatch] at htold
    exact htold.tail PollEvent.noConfusion fun heq ↦ hid (PollEvent.networkWrite.inj heq).symm
  cases Driver.call_done hcall with
  | write hr hresolves hbecomes hquiet =>
      rename_i r r' there
      obtain ⟨hresource, hcases⟩ := resolves_cases hresolves
      have hstream : r'.resource.stream = r.resource.stream := congrArg _ hresource
      have hremains : Remains w.driver d := remains_of_becomes hr hbecomes fun _ ↦ hstream
      refine ⟨hlaw.books.quiet hremains fun id' _ ↦ hquiet id', hlaw.sound,
        fun id' r₁ hr₁ ↦ told_of_becomes hbecomes htail (fun hthere ↦ ?_) hr₁⟩
      rcases hcases with ⟨hready, -⟩ | ⟨hwas, -, -, hincomplete⟩
      · have htold := hlaw.told id r hr
        rw [hbatch] at htold
        exact htold.afterWrite hready hstream
      · refine told_of_connecting (hlaw.sound _) ?_
        rw [hstream]
        exact connecting_of_incomplete ((hpending r hr hwas).symm.trans (hincomplete hthere))
  | same hsame hquiet hidle =>
      have hnone := hlaw.books.remote_eq_none (hidle id rfl)
      refine ⟨hlaw.books.quiet (remains_of_same hsame) hquiet, hlaw.sound, fun id' r hr ↦ ?_⟩
      rw [hsame id'] at hr
      refine htail id' r ?_ hr
      rintro rfl
      cases hr.symm.trans hnone
  | registers hc => cases hc

theorem Law.command {w : World} (hlaw : w.Law) {c : Driver.Call} {d : TcpDriver}
    (hpolls : c.polls = none) (hregisters : c.registers = none)
    (hcall : (w.driver.call c).result = .ok d) :
    Law ⟨d, w.kernel, w.batch, w.registered, w.told ++ (w.driver.call c).effects⟩ := by
  have hquiet : ∀ id : ResourceId, id.resourceType = .remote →
      messagesOf id (w.driver.call c).effects = [] :=
    fun id _ ↦ Driver.noMessage_call w.driver hpolls id
  generalize (w.driver.call c).effects = es at hquiet
  have hdone := Driver.call_done hcall
  generalize (w.driver.call c).effects = es' at hdone
  cases hdone with
  | read => cases hpolls
  | write => cases hpolls
  | registers hc => cases hc.symm.trans hregisters
  | close hr hbecomes =>
      exact ⟨hlaw.books.quiet (remains_of_becomes hr hbecomes nofun) hquiet, hlaw.sound,
        fun id r hr' ↦ told_of_becomes hbecomes (fun id r _ hr ↦ hlaw.told id r hr) nofun hr'⟩
  | same hsame =>
      refine ⟨hlaw.books.quiet (remains_of_same hsame) hquiet, hlaw.sound, fun id r hr ↦ ?_⟩
      rw [hsame id] at hr
      exact hlaw.told id r hr

theorem Law.register {w : World} (hlaw : w.Law) {c : Driver.Call} {endpoint : Endpoint}
    {localId : Option ResourceId} {stream : TcpStream} {edge : Edge} {d : TcpDriver}
    (hc : c.registers = some (endpoint, localId)) (hstream : brings c = some stream)
    (htype : endpoint.resourceId.resourceType = .remote)
    (hid : endpoint.resourceId ∉ w.registered.map Prod.fst)
    (hnew : stream ∉ w.registered.map Prod.snd)
    (hedge : Starts (w.kernel.sockets stream) edge) (hcall : (w.driver.call c).result = .ok d) :
    Law ⟨d, w.kernel.add endpoint.resourceId edge, w.batch,
      (endpoint.resourceId, stream) :: w.registered, w.told ++ (w.driver.call c).effects⟩ := by
  have hpolls : c.polls = none := by
    cases c <;> first | rfl | cases hc
  have hquiet : ∀ id : ResourceId, id.resourceType = .remote →
      messagesOf id (w.driver.call c).effects = [] :=
    fun id _ ↦ Driver.noMessage_call w.driver hpolls id
  have hothers : ∀ id r, w.driver.remote id = some r →
      Told (w.kernel.add endpoint.resourceId edge) w.batch id r := by
    intro id r hr
    have hne : id ≠ endpoint.resourceId := by
      rintro rfl
      exact hid (List.mem_map_of_mem (hlaw.books.known _ r hr))
    have hsame := w.kernel.edges_add_of_ne hne edge
    exact ⟨fun hreadable ↦ hsame ▸ (hlaw.told id r hr).readable hreadable,
      fun hready hconnection ↦ hsame ▸ (hlaw.told id r hr).pending hready hconnection⟩
  generalize (w.driver.call c).effects = es at hquiet
  have hdone := Driver.call_done hcall
  generalize (w.driver.call c).effects = es' at hdone
  cases hdone with
  | read => cases hpolls
  | write => cases hpolls
  | close => cases hc
  | registers hc' hmade hbecomes =>
      obtain ⟨hendpoint, -⟩ := Prod.mk.inj (Option.some.inj (hc'.symm.trans hc))
      rw [hendpoint] at hbecomes
      have hresource := stream_of_made hmade hstream
      refine ⟨hlaw.books.register htype hid hnew hquiet fun id r hr ↦ ?_, hlaw.sound, fun id r hr ↦
        told_of_becomes hbecomes (fun id r _ hr ↦ hothers id r hr) (fun _ ↦ ?_) hr⟩
      · by_cases hid' : id = endpoint.resourceId
        · rw [hid', hbecomes.self] at hr
          cases hr
          exact .inl (congrArg₂ _ hid' hresource)
        · rw [hbecomes.others id hid'] at hr
          exact .inr hr
      · constructor
        · intro hreadable
          left
          rw [Kernel.edges_add_self]
          exact hedge.readable (hresource ▸ hreadable)
        · intro _ hconnection
          left
          rw [Kernel.edges_add_self]
          exact hedge.connection (hresource ▸ hconnection)
  | same hsame =>
      refine ⟨hlaw.books.register htype hid hnew hquiet fun id r hr ↦ ?_, hlaw.sound,
        fun id r hr ↦ ?_⟩
      · rw [hsame id] at hr
        exact .inr hr
      · rw [hsame id] at hr
        exact hothers id r hr

theorem Law.step {w w' : World} (hlaw : w.Law) (h : w.Step w') : w'.Law := by
  cases h with
  | change h => exact hlaw.change h
  | poll reports hbatch hreports =>
      refine ⟨hlaw.books, hlaw.sound, fun id r hr ↦ ?_⟩
      have htold := hlaw.told id r hr
      rw [hbatch] at htold
      exact htold.poll hreports
  | read env accepts hbatch hpending hreads hcall => exact hlaw.read hbatch hpending hreads hcall
  | write env hbatch hpending hcall => exact hlaw.write hbatch hpending hcall
  | waker hbatch =>
      refine ⟨hlaw.books, hlaw.sound, fun id r hr ↦ ?_⟩
      have htold := hlaw.told id r hr
      rw [hbatch] at htold
      exact htold.tail PollEvent.noConfusion PollEvent.noConfusion
  | register hc hstream htype hid hnew hedge hcall =>
      exact hlaw.register hc hstream htype hid hnew hedge hcall
  | command hpolls hregisters hcall => exact hlaw.command hpolls hregisters hcall

theorem Law.run {w w' : World} (hlaw : w.Law) (h : Relation.ReflTransGen Step w w') : w'.Law := by
  induction h with
  | refl => exact hlaw
  | tail _ h ih => exact ih.step h

/-- **No TCP socket is stuck**: in every state between two calls, what waits at the socket of a
remote has an edge or an event of the batch, and the messages of every remote are the bytes
that have been read from its socket. -/
theorem not_stuck {k : Kernel} {w : World} (hfresh : Fresh k)
    (h : Relation.ReflTransGen Step (new k) w) :
    (∀ id r, w.driver.remote id = some r → Told w.kernel w.batch id r) ∧
      ∀ p ∈ w.registered, (messagesOf p.1 w.told).flatten = (w.kernel.sockets p.2).taken := by
  have hlaw := (law_new hfresh).run h
  exact ⟨hlaw.told, hlaw.books.payload⟩

/-- Every socket is connected, and nobody has sent anything. -/
def allConnected : Kernel := ⟨fun _ ↦ ⟨.connected, [], false, []⟩, fun _ ↦ .none⟩

/-- A remote is registered with the first socket. -/
def registerFirst : Driver.Call :=
  .acceptRegisterRemote (⟨⟨0x0080000000000001⟩⟩, .localhost 80)
    (⟨⟨0x0000000000000001⟩⟩, .localhost 81)
    ⟨0⟩ (.tcpAccept none) .fine

/-- Data arrives between the poll that tells of a connection and the write that makes it ready;
the next poll tells of the data. -/
theorem not_stuck_arrives : ∃ w : World, Relation.ReflTransGen Step (new allConnected) w ∧
    (∃ r, w.driver.remote ⟨⟨0x0000000000000001⟩⟩ = some r ∧ r.properties.ready = true) ∧
      messagesOf ⟨⟨0x0000000000000001⟩⟩ w.told = [[1, 2]] ∧
        (∀ id r, w.driver.remote id = some r → Told w.kernel w.batch id r) ∧
          ∀ p ∈ w.registered, (messagesOf p.1 w.told).flatten = (w.kernel.sockets p.2).taken := by
  obtain ⟨w, hrun, hready, hmessages⟩ : ∃ w, Relation.ReflTransGen Step (new allConnected) w ∧
      (∃ r, w.driver.remote ⟨⟨0x0000000000000001⟩⟩ = some r ∧ r.properties.ready = true) ∧
        messagesOf ⟨⟨0x0000000000000001⟩⟩ w.told = [[1, 2]] := by
    refine ⟨_, .tail (.tail (.tail (.tail (.tail (.single
      (.register (c := registerFirst) rfl rfl rfl List.not_mem_nil List.not_mem_nil
        (show Starts _ ⟨false, true⟩ from ⟨fun h ↦ h.elim (absurd rfl) nofun, fun _ ↦ rfl⟩) rfl))
      (.poll [(⟨⟨0x0000000000000001⟩⟩, ⟨false, true⟩)] rfl ?_))
      (.change (.intro ⟨0⟩ (.arrives rfl [1, 2]
        (show Edge.readable ⟨true, true⟩ = true from rfl)))))
      (.write (.connectedTo (.localhost 81)) rfl ?_ rfl))
      (.poll [(⟨⟨0x0000000000000001⟩⟩, ⟨true, true⟩)] rfl ?_))
      (.read (.connectedTo (.localhost 81)) [] rfl ?_ (.receives rfl (.inr rfl)
        (.again (.ofRead (.ok [1, 2])) (.data (List.append_nil _).symm (List.cons_ne_nil _ _)) rfl
          (.last (.ofRead (.err .wouldBlock)) (.wouldBlock rfl rfl) rfl))) rfl), ?_, ?_⟩
    · exact List.forall_mem_singleton.2 (.refl _)
    · intro r hr _
      cases hr
      rfl
    · exact List.forall_mem_singleton.2 (.refl _)
    · intro r hr _
      cases hr
      rfl
    · exact ⟨_, rfl, rfl⟩
    · rfl
  have hfresh : Fresh allConnected := ⟨fun _ _ h ↦ Connection.noConfusion h, fun _ ↦ rfl⟩
  exact ⟨w, hrun, hready, hmessages, not_stuck hfresh hrun⟩

end World

end Tcp

end MessageIo
