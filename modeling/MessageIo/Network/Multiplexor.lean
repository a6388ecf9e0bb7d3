import Mathlib.Data.List.Induction
import MessageIo.Adapters.Ws

/-!
# Commands (`network.rs`)

A worker has one driver for each transport that is compiled in, in a list of 128
processors; an id names its processor by its adapter id.  `processCommand` is what
`process_poll_event` does with one command of its queue.
-/

namespace MessageIo

namespace Transport

/-- The remote resource of a transport. -/
abbrev RemoteResource : Transport → Type
  | tcp => Tcp.RemoteResource
  | ssl => Ssl.RemoteResource
  | ws => Ws.RemoteResource

/-- The local resource of a transport. -/
abbrev LocalResource : Transport → Type
  | tcp => Tcp.LocalResource
  | ssl => Ssl.LocalResource
  | ws => Ws.LocalResource

instance : (t : Transport) → Adapter t.RemoteResource t.LocalResource
  | tcp => inferInstanceAs (Adapter Tcp.RemoteResource Tcp.LocalResource)
  | ssl => inferInstanceAs (Adapter Ssl.RemoteResource Ssl.LocalResource)
  | ws => inferInstanceAs (Adapter Ws.RemoteResource Ws.LocalResource)

/-- Mounts the adapter in the list of processors. -/
def mountAdapter (processors : List (Option Transport)) (t : Transport) :
    List (Option Transport) :=
  processors.set t.id.toNat (some t)

end Transport

/-- The list of processors with the transports that are compiled in; `none` is the
unimplemented driver. -/
def eventProcessorList (transports : List Transport) : List (Option Transport) :=
  transports.foldl Transport.mountAdapter (List.replicate ResourceId.maxAdapters none)

/-- `get_processor`, with the panic of the unimplemented driver. -/
def getProcessor (transports : List Transport) (id : ResourceId) : Except Halt Transport :=
  match (eventProcessorList transports)[id.adapterId.toNat]? with
  | none => .error (.panic .slice)
  | some none => .error (.panic .unimplementedDriver)
  | some (some t) => .ok t

/-- The drivers of a worker. -/
abbrev Processors := (t : Transport) → Driver t.RemoteResource t.LocalResource

/-- The drivers of a worker that has just been launched. -/
def Processors.new : Processors := fun _ ↦ .new

/-- What is answered while a command is processed. -/
structure CommandEnv where
  register : RegisterEnv
  listen : ListenEnv
  connect : ConnectEnv
  send : SendEnv

/-- A new stream gets the given name. -/
def CommandEnv.withStream (env : CommandEnv) (stream : TcpStream) : CommandEnv :=
  { env with connect := { env.connect with stream } }

/-- Answers with which everything goes well, and the given ones to the calls of
`write`. -/
def CommandEnv.fine (writes : List WriteCall) : CommandEnv where
  register := .fine
  listen := .fine ⟨0⟩ (.localhost 80)
  connect := .fine ⟨0⟩ (.localhost 80)
  send := ⟨writes, []⟩

/-- One command, dequeued by a worker (or by the master). -/
def processCommand (transports : List Transport) (ps : Processors) (c : WakerCommand)
    (env : CommandEnv) : Action Processors := do
  match c with
  | .greet text =>
      Proc.effect (.emit (.waker (.greet text)))
      return ps
  | .acceptRegisterRemote localPair remotePair stream payload =>
      let t ← Proc.ofExcept (getProcessor transports remotePair.1)
      let d ← (ps t).processAcceptRegisterRemote localPair remotePair stream payload env.register
      return Function.update ps t d
  | .connectRegisterRemote localAddr remotePair stream payload cb =>
      let t ← Proc.ofExcept (getProcessor transports remotePair.1)
      let d ← (ps t).processConnectRegisterRemote localAddr remotePair stream payload cb
        env.register
      return Function.update ps t d
  | .listen config localId addr cb =>
      let t ← Proc.ofExcept (getProcessor transports localId)
      let d ← (ps t).processListen config localId addr cb env.listen
      return Function.update ps t d
  | .connect config remoteId raddr cb =>
      let t ← Proc.ofExcept (getProcessor transports remoteId)
      Driver.processConnect t.RemoteResource t.LocalResource config remoteId raddr cb env.connect
      return ps
  | .send endpoint buffer =>
      let t ← Proc.ofExcept (getProcessor transports endpoint.resourceId)
      (ps t).processSend endpoint buffer env.send
      return ps
  | .sendSync endpoint buffer cb =>
      let t ← Proc.ofExcept (getProcessor transports endpoint.resourceId)
      (ps t).processSend endpoint buffer env.send
      Proc.effect (.call cb .sent)
      return ps
  | .close resourceId =>
      let t ← Proc.ofExcept (getProcessor transports resourceId)
      return Function.update ps t ((ps t).processClose resourceId).1
  | .isReady resourceId cb =>
      let t ← Proc.ofExcept (getProcessor transports resourceId)
      Proc.effect (.call cb (.isReady ((ps t).processIsReady resourceId)))
      return ps
  | .stop =>
      Proc.effect (.emit (.waker .stop))
      return ps

/-- A poll event that a remote can be read. -/
def processNetworkRead (transports : List Transport) (ps : Processors) (id : ResourceId)
    (env : PendingEnv) (reads : List ReadEnv) : Action Processors := do
  let t ← Proc.ofExcept (getProcessor transports id)
  let d ← (ps t).processRead id env reads []
  return Function.update ps t d

/-- A poll event that a resource can be written. -/
def processNetworkWrite (transports : List Transport) (ps : Processors) (id : ResourceId)
    (env : PendingEnv) : Action Processors := do
  let t ← Proc.ofExcept (getProcessor transports id)
  let d ← (ps t).processWrite id env
  return Function.update ps t d

/-! ## What commands are about -/

/-- What a stream is registered with: its id, its peer and the listener that accepted it,
if one did. -/
structure Arrival where
  id : ResourceId
  stream : TcpStream
  addr : SocketAddr
  listener : Option ResourceId
deriving DecidableEq, Repr

/-- The arrival that a register command carries. -/
def WakerCommand.arrival : WakerCommand → Option Arrival
  | acceptRegisterRemote localPair remotePair stream _ =>
      some ⟨remotePair.1, stream, remotePair.2, some localPair.1⟩
  | connectRegisterRemote _ remotePair stream _ _ => some ⟨remotePair.1, stream, remotePair.2, none⟩
  | _ => none

/-- The id that a command of the user is about, if the resource is to be there already. -/
def WakerCommand.target : WakerCommand → Option ResourceId
  | send endpoint _ => some endpoint.resourceId
  | sendSync endpoint _ _ => some endpoint.resourceId
  | close id => some id
  | isReady id _ => some id
  | _ => none

/-- The id that a command gives the poll to watch. -/
def WakerCommand.watches : WakerCommand → Option ResourceId
  | acceptRegisterRemote _ remotePair _ _ => some remotePair.1
  | connectRegisterRemote _ remotePair _ _ _ => some remotePair.1
  | listen _ localId _ _ => some localId
  | _ => none

/-- A command that registers a stream is about no resource that is there already. -/
theorem WakerCommand.target_of_arrival {c : WakerCommand} {a : Arrival} (h : c.arrival = some a) :
    c.target = none := by
  cases c <;> first | rfl | cases h

/-- The arrivals that some effects send on their way. -/
def arrivals (es : List Effect) : List Arrival := (posts es).filterMap WakerCommand.arrival

/-- A command that is handed to the event callback. -/
def WakerCommand.isEvent : WakerCommand → Bool
  | greet _ => true
  | stop => true
  | _ => false

/-- Whether a remote is registered. -/
def isRegistered (transports : List Transport) (ps : Processors) (id : ResourceId) : Bool :=
  match getProcessor transports id with
  | .ok t => ((ps t).remote id).isSome
  | .error _ => false

/-! ## The list of processors -/

theorem eventProcessorList_append (transports : List Transport) (t : Transport) :
    eventProcessorList (transports ++ [t]) =
      (eventProcessorList transports).set t.id.toNat (some t) := List.foldl_concat ..

theorem length_eventProcessorList (transports : List Transport) :
    (eventProcessorList transports).length = ResourceId.maxAdapters := by
  induction transports using List.reverseRecOn with
  | nil => exact List.length_replicate
  | append_singleton ts t ih => rw [eventProcessorList_append, List.length_set, ih]

theorem toNat_id_injective : Function.Injective fun t : Transport ↦ t.id.toNat :=
  fun _ _ h ↦ Transport.id_injective (BitVec.eq_of_toNat_eq h)

theorem toNat_id_lt (t : Transport) : t.id.toNat < ResourceId.maxAdapters := by
  cases t <;> decide

/-- A transport is found under its id, if it is compiled in. -/
theorem getElem?_eventProcessorList (transports : List Transport) (i : Nat) (t : Transport) :
    (eventProcessorList transports)[i]? = some (some t) ↔ t ∈ transports ∧ i = t.id.toNat := by
  induction transports using List.reverseRecOn with
  | nil =>
      refine ⟨fun h ↦ ?_, fun h ↦ absurd h.1 List.not_mem_nil⟩
      change (List.replicate _ none)[i]? = _ at h
      rw [List.getElem?_replicate] at h
      split at h <;> cases h
  | append_singleton ts s ih =>
      rw [eventProcessorList_append, List.getElem?_set, length_eventProcessorList,
        List.mem_append, List.mem_singleton]
      by_cases hs : s.id.toNat = i
      · rw [if_pos hs, if_pos (toNat_id_lt s), Option.some_inj, Option.some_inj]
        constructor
        · rintro rfl
          exact ⟨.inr rfl, hs.symm⟩
        · rintro ⟨-, ht⟩
          exact toNat_id_injective (hs.trans ht)
      · rw [if_neg hs, ih]
        constructor
        · rintro ⟨hmem, hi⟩
          exact ⟨.inl hmem, hi⟩
        · rintro ⟨hmem | rfl, hi⟩
          · exact ⟨hmem, hi⟩
          · exact absurd hi.symm hs

/-- **An id finds the driver of its adapter**, if that is compiled in. -/
theorem getProcessor_eq_ok {transports : List Transport} {id : ResourceId} {t : Transport} :
    getProcessor transports id = .ok t ↔ t ∈ transports ∧ id.adapterId = t.id := by
  have hiff := getElem?_eventProcessorList transports id.adapterId.toNat t
  rw [show id.adapterId.toNat = t.id.toNat ↔ id.adapterId = t.id from BitVec.toNat_inj] at hiff
  rw [← hiff, getProcessor]
  split
  · rename_i h
    rw [h]
    constructor <;> rintro ⟨⟩
  · rename_i h
    rw [h]
    constructor <;> rintro ⟨⟩
  · rename_i s h
    rw [h, Option.some_inj, Option.some_inj]
    exact ⟨fun h ↦ by cases h; rfl, fun h ↦ by rw [h]⟩

end MessageIo
