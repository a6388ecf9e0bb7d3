import Mathlib.Logic.Function.Basic
import MessageIo.Network.Adapter

/-!
# Registries and drivers (`network/registry.rs`, `network/driver.rs`)

The three drivers of the source have the same body but for the types of their
resources and for how they connect and register them.  `Driver R L` is the part
they share: two registries, and the processing of poll events, sends, closes and
readiness queries over them.

`processRead` and `processWrite` have one front, `whenReady`.  What a call does to
the world is a list of effects, performed one after another; other threads can come
in between, but none of them sees the registries of this driver.
-/

namespace MessageIo

/-! ## Registries -/

/-- Register of resource. -/
structure Register (S P : Type) where
  resource : S
  properties : P

/-- The registered resources, by id. -/
structure ResourceRegistry (S P : Type) where
  resources : ResourceId → Option (Register S P)

namespace ResourceRegistry

variable {S P : Type}

def new : ResourceRegistry S P := ⟨fun _ ↦ none⟩

/-- Add a resource into the registry. -/
def register (g : ResourceRegistry S P) (id : ResourceId) (resource : S) (properties : P) :
    ResourceRegistry S P :=
  ⟨Function.update g.resources id (some ⟨resource, properties⟩)⟩

/-- Remove a register from the registry, and tell if there was one. -/
def deregister (g : ResourceRegistry S P) (id : ResourceId) : ResourceRegistry S P × Bool :=
  (⟨Function.update g.resources id none⟩, (g.resources id).isSome)

def get (g : ResourceRegistry S P) (id : ResourceId) : Option (Register S P) := g.resources id

/-- What a shared reference to the register of `id` is changed to is seen through the
registry as well, if the register is still there. -/
def modify (g : ResourceRegistry S P) (id : ResourceId) (r : Register S P) :
    ResourceRegistry S P :=
  ⟨Function.update g.resources id ((g.resources id).map fun _ ↦ r)⟩

@[simp] theorem get_new (id : ResourceId) : (new : ResourceRegistry S P).get id = none := rfl

@[simp] theorem get_register_self (g : ResourceRegistry S P) (id : ResourceId) (s : S) (p : P) :
    (g.register id s p).get id = some ⟨s, p⟩ := Function.update_self ..

theorem get_register_of_ne {g : ResourceRegistry S P} {id id' : ResourceId} (h : id' ≠ id)
    (s : S) (p : P) : (g.register id s p).get id' = g.get id' := Function.update_of_ne h ..

@[simp] theorem get_deregister_self (g : ResourceRegistry S P) (id : ResourceId) :
    (g.deregister id).1.get id = none := Function.update_self ..

theorem get_deregister_of_ne {g : ResourceRegistry S P} {id id' : ResourceId} (h : id' ≠ id) :
    (g.deregister id).1.get id' = g.get id' := Function.update_of_ne h ..

@[simp] theorem snd_deregister (g : ResourceRegistry S P) (id : ResourceId) :
    (g.deregister id).2 = (g.get id).isSome := rfl

@[simp] theorem get_modify_self (g : ResourceRegistry S P) (id : ResourceId) (r : Register S P) :
    (g.modify id r).get id = (g.get id).map fun _ ↦ r := Function.update_self ..

theorem get_modify_of_ne {g : ResourceRegistry S P} {id id' : ResourceId} (h : id' ≠ id)
    (r : Register S P) : (g.modify id r).get id' = g.get id' := Function.update_of_ne h ..

end ResourceRegistry

structure RemoteProperties where
  peerAddr : SocketAddr
  /-- The listener that accepted this remote, if one did. -/
  localId : Option ResourceId
  ready : Bool
deriving DecidableEq, Repr

namespace RemoteProperties

def new (peerAddr : SocketAddr) (localId : Option ResourceId) : RemoteProperties :=
  ⟨peerAddr, localId, false⟩

def markAsReady (p : RemoteProperties) : RemoteProperties := { p with ready := true }

end RemoteProperties

/-! ## Drivers -/

/-- The registries of one adapter in one worker. -/
structure Driver (R L : Type) where
  remoteRegistry : ResourceRegistry R RemoteProperties
  localRegistry : ResourceRegistry L Unit

namespace Driver

variable {R L : Type}

def new : Driver R L := ⟨.new, .new⟩

/-- The register of a remote. -/
def remote (d : Driver R L) (id : ResourceId) : Option (Register R RemoteProperties) :=
  d.remoteRegistry.get id

/-- The register of a listener. -/
def listener (d : Driver R L) (id : ResourceId) : Option (Register L Unit) :=
  d.localRegistry.get id

/-- The event callback of the node is called with a network event. -/
def event (e : NetEvent) : Action Unit := Proc.effect (.emit (.network e))

/-- Register a remote with the poll and the registry; the poll may refuse. -/
def registerRemote (d : Driver R L) (id : ResourceId) (resource : R) (p : RemoteProperties)
    (pollAdd : IoResult Unit) : Except Halt (Driver R L) := do
  unwrap pollAdd
  return { d with remoteRegistry := d.remoteRegistry.register id resource p }

def registerLocal (d : Driver R L) (id : ResourceId) (resource : L)
    (pollAdd : IoResult Unit) : Except Halt (Driver R L) := do
  unwrap pollAdd
  return { d with localRegistry := d.localRegistry.register id resource () }

def deregisterRemote (d : Driver R L) (id : ResourceId) : Driver R L :=
  { d with remoteRegistry := (d.remoteRegistry.deregister id).1 }

def deregisterLocal (d : Driver R L) (id : ResourceId) : Driver R L :=
  { d with localRegistry := (d.localRegistry.deregister id).1 }

/-- A register is changed through a shared reference. -/
def modifyRemote (d : Driver R L) (id : ResourceId) (r : Register R RemoteProperties) :
    Driver R L :=
  { d with remoteRegistry := d.remoteRegistry.modify id r }

section Remote

variable [Remote R]

/-- What the user is told when a remote becomes ready. -/
def tellReady (endpoint : Endpoint) : Option ResourceId → Action Unit
  | some listenerId => event (.accepted endpoint listenerId)
  | none => event (.connected endpoint true)

/-- What the user is told when a remote does not become ready: nothing about one that a
listener accepted. -/
def tellFailed (endpoint : Endpoint) : Option ResourceId → Action Unit
  | some _ => pure ()
  | none => event (.connected endpoint false)

/-- `resolve_pending_remote`: the driver and the register after it. -/
def resolvePendingRemote (d : Driver R L) (remote : Register R RemoteProperties)
    (endpoint : Endpoint) (env : PendingEnv) :
    Action (Driver R L × Register R RemoteProperties) := do
  let (status, resource) ← Proc.ofExcept (Remote.pending remote.resource env)
  match status with
  | .ready =>
      tellReady endpoint remote.properties.localId
      -- `ready_to_write` is called here and its answer ignored
      return (d.modifyRemote endpoint.resourceId ⟨resource, remote.properties.markAsReady⟩,
        ⟨resource, remote.properties.markAsReady⟩)
  | .incomplete =>
      return (d.modifyRemote endpoint.resourceId { remote with resource }, { remote with resource })
  | .disconnected =>
      tellFailed endpoint remote.properties.localId
      return (d.deregisterRemote endpoint.resourceId, { remote with resource })

/-- The remote is resolved unless it is ready. -/
def resolveUnlessReady (d : Driver R L) (remote : Register R RemoteProperties)
    (endpoint : Endpoint) (env : PendingEnv) :
    Action (Driver R L × Register R RemoteProperties) :=
  if remote.properties.ready then pure (d, remote) else d.resolvePendingRemote remote endpoint env

/-- The front of `process_read` and `process_write`: the remote of the id, if it is
ready, possibly since now. -/
def whenReady (d : Driver R L) (id : ResourceId) (env : PendingEnv) :
    Action (Driver R L × Option (Endpoint × Register R RemoteProperties)) := do
  match d.remote id with
  | none => return (d, none)
  | some remote =>
      let (d, remote) ← d.resolveUnlessReady remote ⟨id, remote.properties.peerAddr⟩ env
      return (d, if remote.properties.ready then some (⟨id, remote.properties.peerAddr⟩, remote)
        else none)

/-- `write_to_remote` -/
def writeToRemote (remote : Register R RemoteProperties) (endpoint : Endpoint) : Action Unit :=
  if !Remote.readyToWrite remote.resource then event (.disconnected endpoint) else pure ()

/-- What `read_from_remote` does when `receive` has returned. -/
def afterReceive (d : Driver R L) (endpoint : Endpoint) : ReadStatus → Action (Driver R L)
  | .disconnected =>
      match d.remoteRegistry.deregister endpoint.resourceId with
      | (_, true) => do
          event (.disconnected endpoint)
          return d.deregisterRemote endpoint.resourceId
      | (_, false) => return d.deregisterRemote endpoint.resourceId
  | .waitNextEvent => return d

/-- `read_from_remote` -/
def readFromRemote (d : Driver R L) (remote : Register R RemoteProperties) (endpoint : Endpoint)
    (envs : List ReadEnv) : Action (Driver R L) := do
  let (status, resource) ← (Remote.receive remote.resource envs).mapEffects fun data ↦
    .emit (.network (.message endpoint data))
  (d.modifyRemote endpoint.resourceId { remote with resource }).afterReceive endpoint status

/-- `process_send`; the status is thrown away. -/
def processSend [Local L] (d : Driver R L) (endpoint : Endpoint) (data : Bytes) (env : SendEnv) :
    Action Unit := do
  let id := endpoint.resourceId
  match id.resourceType with
  | .remote =>
      match d.remote id with
      | some remote =>
          if remote.properties.ready then
            let _status ← (Remote.send remote.resource data env).mapEffects .write
          else pure ()
      | none => pure ()
  | .local =>
      match d.listener id with
      | some l =>
          let _status ← Proc.ofExcept (Local.sendTo l.resource endpoint.addr data)
      | none => pure ()

end Remote

section Local

variable [Local L]

/-- One turn of `read_from_local`: whether the loop goes on. -/
def acceptTurn (l : L) (id : ResourceId) (env : AcceptEnv) : Action Bool := do
  match Local.acceptTurn l env.accept with
  | .accepted (.remote remoteAddr stream payload) =>
      let localAddr ← Proc.ofExcept (unwrap env.localAddr)
      let remoteId ← Proc.ofExcept (generated env.remoteId)
      Proc.effect (.post remoteId
        (.acceptRegisterRemote (id, localAddr) (remoteId, remoteAddr) stream payload))
      return true
  | .accepted (.data addr data) =>
      event (.message ⟨id, addr⟩ data)
      return true
  | .again => return true
  | .done => return false

/-- `read_from_local`, as far as the answers reach. -/
def readFromLocal (l : L) (id : ResourceId) : List AcceptEnv → Action Unit
  | [] => .halt .running
  | env :: envs => do
      if ← acceptTurn l id env then readFromLocal l id envs
      else return ()

end Local

/-- `process_close`: whether the id was registered. -/
def processClose (d : Driver R L) (id : ResourceId) : Driver R L × Bool :=
  match id.resourceType with
  | .remote => (d.deregisterRemote id, (d.remoteRegistry.deregister id).2)
  | .local => (d.deregisterLocal id, (d.localRegistry.deregister id).2)

/-- `process_is_ready`: the answer given to the callback.  For a local id too it is
the remote registry that is asked. -/
def processIsReady (d : Driver R L) (id : ResourceId) : Option Bool :=
  match id.resourceType with
  | .remote => (d.remote id).map fun r ↦ r.properties.ready
  | .local => (d.remote id).map fun _ ↦ true

section Process

variable [Remote R] [Local L]

/-- `process_read` -/
def processRead (d : Driver R L) (id : ResourceId) (env : PendingEnv) (reads : List ReadEnv)
    (accepts : List AcceptEnv) : Action (Driver R L) := do
  match id.resourceType with
  | .remote =>
      match ← d.whenReady id env with
      | (d, some (endpoint, remote)) => d.readFromRemote remote endpoint reads
      | (d, none) => return d
  | .local =>
      match d.listener id with
      | some l =>
          readFromLocal l.resource id accepts
          return d
      | none => return d

/-- `process_write` -/
def processWrite (d : Driver R L) (id : ResourceId) (env : PendingEnv) :
    Action (Driver R L) := do
  match id.resourceType with
  | .remote =>
      match ← d.whenReady id env with
      | (d, some (endpoint, remote)) =>
          writeToRemote remote endpoint
          return d
      | (d, none) => return d
  | .local => return d

end Process

section Adapter

variable [Adapter R L]

/-- `process_accept_register_remote`; the callback it gets does nothing. -/
def processAcceptRegisterRemote (d : Driver R L) (localPair remotePair : ResourceId × SocketAddr)
    (stream : TcpStream) (payload : Payload) (env : RegisterEnv) : Action (Driver R L) := do
  let resource ← Proc.ofExcept (Adapter.acceptedResource L stream payload)
  Proc.ofExcept (d.registerRemote remotePair.1 resource
    (.new remotePair.2 (some localPair.1)) env.pollAdd)

/-- `process_connect_register_remote` -/
def processConnectRegisterRemote (d : Driver R L) (localAddr : SocketAddr)
    (remotePair : ResourceId × SocketAddr) (stream : TcpStream) (payload : Payload)
    (cb : Callback) (env : RegisterEnv) : Action (Driver R L) := do
  let resource ← Proc.ofExcept (Adapter.connectedResource L stream payload env)
  let d ← Proc.ofExcept
    (d.registerRemote remotePair.1 resource (.new remotePair.2 none) env.pollAdd)
  Proc.effect (.call cb (.connect (.ok (⟨remotePair.1, remotePair.2⟩, localAddr))))
  return d

/-- `process_listen` -/
def processListen (d : Driver R L) (config : ListenConfig) (localId : ResourceId)
    (addr : SocketAddr) (cb : Callback) (env : ListenEnv) : Action (Driver R L) := do
  match ← Proc.ofExcept (Local.listenWith config addr env) with
  | .ok (l, localAddr) =>
      let d ← Proc.ofExcept (d.registerLocal localId l env.pollAdd)
      Proc.effect (.call cb (.listen (.ok (localId, localAddr))))
      return d
  | .error err =>
      Proc.effect (.call cb (.listen (.error err)))
      return d

variable (R L) in
/-- `process_connect`: a connection is handed on to the worker of the id.  A failed one
is dropped, and the callback with it. -/
def processConnect (config : ConnectConfig) (remoteId : ResourceId) (raddr : RemoteAddr)
    (cb : Callback) (env : ConnectEnv) : Action Unit := do
  match ← Proc.ofExcept (Adapter.connect R L config raddr env) with
  | .ok (info, payload) =>
      Proc.effect (.post remoteId
        (.connectRegisterRemote info.localAddr (remoteId, info.peerAddr) info.stream payload cb))
  | .error _ => return ()

/-! ## Runs of a driver -/

/-- A call of the trait `EventProcessor`, with what is answered during it. -/
inductive Call where
  | read (id : ResourceId) (env : PendingEnv) (reads : List ReadEnv) (accepts : List AcceptEnv)
  | write (id : ResourceId) (env : PendingEnv)
  | acceptRegisterRemote (localPair remotePair : ResourceId × SocketAddr) (stream : TcpStream)
      (payload : Payload) (env : RegisterEnv)
  | connectRegisterRemote (localAddr : SocketAddr) (remotePair : ResourceId × SocketAddr)
      (stream : TcpStream) (payload : Payload) (cb : Callback) (env : RegisterEnv)
  | listen (config : ListenConfig) (localId : ResourceId) (addr : SocketAddr) (cb : Callback)
      (env : ListenEnv)
  | connect (config : ConnectConfig) (remoteId : ResourceId) (raddr : RemoteAddr) (cb : Callback)
      (env : ConnectEnv)
  | send (endpoint : Endpoint) (data : Bytes) (env : SendEnv)
  | close (id : ResourceId)
  | isReady (id : ResourceId) (cb : Callback)

/-- The remote that a call registers, with its address and its listener. -/
def Call.registers : Call → Option (Endpoint × Option ResourceId)
  | acceptRegisterRemote localPair remotePair _ _ _ =>
      some (⟨remotePair.1, remotePair.2⟩, some localPair.1)
  | connectRegisterRemote _ remotePair _ _ _ _ => some (⟨remotePair.1, remotePair.2⟩, none)
  | _ => none

def call (d : Driver R L) : Call → Action (Driver R L)
  | .read id env reads accepts => d.processRead id env reads accepts
  | .write id env => d.processWrite id env
  | .acceptRegisterRemote localPair remotePair stream payload env =>
      d.processAcceptRegisterRemote localPair remotePair stream payload env
  | .connectRegisterRemote localAddr remotePair stream payload cb env =>
      d.processConnectRegisterRemote localAddr remotePair stream payload cb env
  | .listen config localId addr cb env => d.processListen config localId addr cb env
  | .connect config remoteId raddr cb env => do
      processConnect R L config remoteId raddr cb env
      return d
  | .send endpoint data env => do
      d.processSend endpoint data env
      return d
  | .close id => return (d.processClose id).1
  | .isReady id cb => do
      Proc.effect (.call cb (.isReady (d.processIsReady id)))
      return d

/-- One call after another; a call that does not return is the last one. -/
def run (d : Driver R L) : List Call → Action (Driver R L)
  | [] => return d
  | c :: calls => do
      let d ← d.call c
      run d calls

theorem run_append (d : Driver R L) (calls more : List Call) :
    d.run (calls ++ more) = d.run calls >>= fun d ↦ d.run more := by
  induction calls generalizing d with
  | nil =>
      change d.run more = (pure d : Action (Driver R L)) >>= fun d ↦ d.run more
      rw [pure_bind]
  | cons c calls ih =>
      change (d.call c >>= fun d ↦ d.run (calls ++ more)) = (d.call c >>= fun d ↦ d.run calls) >>= _
      rw [bind_assoc]
      congr 1
      funext d
      exact ih d

end Adapter

end Driver

end MessageIo
