import MessageIo.Node.Origin

/-!
# Ids and streams on their way

An id that a generator has handed out is held by a call of the user, then is in a command
that the master has not taken yet, and then names a stream.  A stream with an id is in a
command that is posted, then in one that its worker has not taken yet, and then is
registered.  At no time is an id, or a stream with its id, in two of these places, and it
never moves back: `Tokens` counts them.
-/

namespace MessageIo

variable {N : Nat}

namespace Node

/-! ## Where commands go -/

/-- The operations of `NodeHandler` are used. -/
def UsesHandler [NeZero N] (s : Node N) : Step N → Prop
  | .enqueue m c => s.Posts m c
  | _ => True

section

variable [NeZero N]

/-- A command in the queue of `m`: what is about a remote is with the worker of its id. -/
structure Routed (m : Ctl N) (c : WakerCommand) : Prop where
  target : ∀ id, c.target = some id → id.resourceType = .remote → m = workerOf id
  arrival : ∀ a, c.arrival = some a → m = workerOf a.id ∧ a.id.resourceType = .remote
  connect : ∀ config id raddr cb, c = .connect config id raddr cb → id.resourceType = .remote

theorem Posts.routed {s : Node N} {m : Ctl N} {c : WakerCommand} (h : s.Posts m c) :
    Routed m c where
  target id htarget hremote := by
    cases c with
    | send endpoint buffer =>
        cases htarget
        exact h
    | sendSync endpoint buffer cb =>
        cases htarget
        exact h
    | isReady id cb =>
        cases htarget
        exact h
    | close id =>
        cases htarget
        rw [Posts, hremote] at h
        exact h
    | _ => cases htarget
  arrival a harrival := by
    cases c with
    | acceptRegisterRemote localPair remotePair stream payload => exact h.elim
    | connectRegisterRemote localAddr remotePair stream payload cb => exact h.elim
    | _ => cases harrival
  connect config id raddr cb hc := by
    subst hc
    exact h.2.2

/-- What is posted by a driver is the registration of a remote with its worker. -/
def Registration (id : ResourceId) (c : WakerCommand) : Prop :=
  id.resourceType = .remote ∧ ∃ a, c.arrival = some a ∧ a.id = id

theorem Registration.routed {id : ResourceId} {c : WakerCommand} (h : Registration id c) :
    Routed (workerOf id : Ctl N) c := by
  obtain ⟨hremote, a, harrival, rfl⟩ := h
  have htarget := WakerCommand.target_of_arrival harrival
  constructor
  · intro id hid
    rw [htarget] at hid
    cases hid
  · intro a' ha'
    cases harrival.symm.trans ha'
    exact ⟨rfl, hremote⟩
  · rintro config id raddr cb rfl
    cases harrival

theorem Registration.postedId {id : ResourceId} {c : WakerCommand} (h : Registration id c) :
    postedId c = none := by
  obtain ⟨-, a, harrival, -⟩ := h
  cases c <;> first | rfl | cases harrival

/-- **Commands are where they belong.** -/
structure Routes (s : Node N) : Prop where
  queued : ∀ m, ∀ p ∈ (s.muxes m).queue, Routed m p.command
  posted : ∀ m id c, .effect (.post id c) ∈ (s.muxes m).phase.pending → Registration id c
  rgen : s.rgen.resourceType = .remote

theorem routes_new : (new N).Routes where
  queued _ _ h := absurd h List.not_mem_nil
  posted _ _ _ h := absurd h List.not_mem_nil
  rgen := rfl

variable {transports : List Transport} {s s' : Node N} {m : Ctl N} {a : Answers}

/-- What the call of a step posts. -/
theorem Routes.calls {p : Action Processors} {id : ResourceId} {c : WakerCommand} (h : s.Routes)
    (hp : Calls transports s m a p) (he : .post id c ∈ p.effects) : Registration id c := by
  cases hp with
  | noProcessor hphase hget => cases he
  | remote hphase hevent =>
      obtain ⟨event, heq, -⟩ : Driver.IsEventOf _ (.post id c) := hevent.spec.effects _ he
      cases heq
  | @post count p queue tasks hphase hqueue =>
      have hrouted : Routed m p.command := by
        refine h.queued m p ?_
        rw [hqueue]
        exact List.mem_cons_self
      cases (processCommand_spec ..).effects _ he with
      | post hc hstream => exact ⟨hrouted.connect _ _ _ _ hc, _, rfl, rfl⟩
  | @accept t l id' tasks hphase =>
      obtain ⟨payload, hpayload⟩ := Driver.localAcceptTurn_eq t l
      have hturn := Driver.acceptTurn_spec hpayload id' (s.acceptEnv id' a.accept)
      change .post id c ∈ (Driver.acceptTurn l id' (s.acceptEnv id' a.accept)).effects at he
      generalize Driver.acceptTurn l id' (s.acceptEnv id' a.accept) = turn at hturn he
      cases hturn with
      | sent haccept hlocal hremote =>
          cases List.mem_singleton.1 he
          exact ⟨(ResourceIdGenerator.generate_some hremote).1.trans h.rgen, _, rfl, rfl⟩
      | noAddr haccept hlocal => cases he
      | noId haccept hlocal hremote => cases he
      | nothing haccept => cases he

theorem Routes.stepMux (h : s.Routes) (hs : MuxStep transports s m a s') : s'.Routes where
  queued m' p hp := by
    rcases hs.mem_queue hp with hp | ⟨id, hpending, rfl, -⟩
    · exact h.queued m' p hp
    · exact (h.posted m id p.command hpending).routed
  posted m' id c he := by
    rcases hs.mem_pending he with he | ⟨-, p, hp, he⟩
    · exact h.posted m' id c he
    · exact h.calls hp he
  rgen := hs.resourceType_rgen.trans h.rgen

/-- **Every step keeps them there**, if the user goes through `NodeHandler`. -/
theorem Routes.step {b : Step N} (h : s.Routes) (huses : s.UsesHandler b)
    (hs : s.step transports b = some s') : s'.Routes := by
  cases b with
  | generate resourceType t =>
      rw [Node.step] at hs
      split at hs
      · cases hs
        cases resourceType <;> exact ⟨h.queued, h.posted, h.rgen⟩
      · cases hs
  | enqueue m c =>
      cases hs
      refine ⟨fun m' p hp ↦ ?_, fun m' id c' he ↦ ?_, h.rgen⟩
      · rcases mem_queue_enqueue hp with hp | ⟨rfl, rfl⟩
        · exact h.queued m' p hp
        · exact Posts.routed huses
      · rw [phase_enqueue] at he
        exact h.posted m' id c' he
  | wake m =>
      rw [Node.step] at hs
      split at hs
      · cases hs
        refine ⟨fun m' p hp ↦ ?_, fun m' id c' he ↦ ?_, h.rgen⟩
        · exact h.queued m' p (mem_queue_update hp muxes_wake fun _ hp ↦ hp)
        · rw [phase_wake] at he
          exact h.posted m' id c' he
      · cases hs
  | stop =>
      cases hs
      exact ⟨h.queued, h.posted, h.rgen⟩
  | mux m a => exact h.stepMux (stepMux_cases hs)

end

end Node

/-! ## Places -/

/-- The arrival that is posted next, or later. -/
def Pending.arrival : Pending N → Option Arrival
  | .effect (.post _ c) => c.arrival
  | _ => none

/-- The arrivals among pending effects are those that the effects post. -/
theorem filterMap_arrival_effects (es : List Effect) :
    (es.map (.effect : Effect → Pending N)).filterMap Pending.arrival = arrivals es := by
  rw [arrivals, posts, List.filterMap_map, List.filterMap_filterMap]
  congr 1
  funext e
  cases e <;> rfl

namespace Mux

/-- The ids that commands in the queue are to connect or to listen with. -/
def requests (x : Mux N) : List ResourceId := x.queue.filterMap fun p ↦ Node.postedId p.command

/-- The arrivals that a thread is about to post, and those in its queue. -/
def cargo (x : Mux N) : List Arrival :=
  x.phase.pending.filterMap Pending.arrival ++ x.queue.filterMap fun p ↦ p.command.arrival

/-- A queue with no more in it asks for no more. -/
theorem count_requests_le {x y : Mux N} (h : x.queue.Sublist y.queue) (id : ResourceId) :
    x.requests.count id ≤ y.requests.count id := (h.filterMap _).count_le id

/-- A post brings what its command asks for, unless nobody is there to take it. -/
theorem count_requests_enqueue (x : Mux N) (c : WakerCommand) (learned : Bool) (id : ResourceId) :
    ({ x with queue := x.phase.keeps (x.queue ++ [⟨c, learned⟩]) } : Mux N).requests.count id ≤
      x.requests.count id + (Node.postedId c).toList.count id := by
  refine (((x.phase.keeps_sublist _).filterMap _).count_le id).trans ?_
  rw [List.filterMap_append, List.count_append]
  exact le_rfl

theorem count_cargo_enqueue (x : Mux N) (c : WakerCommand) (learned : Bool) (a : Arrival) :
    ({ x with queue := x.phase.keeps (x.queue ++ [⟨c, learned⟩]) } : Mux N).cargo.count a ≤
      x.cargo.count a + c.arrival.toList.count a := by
  refine ((((x.phase.keeps_sublist _).filterMap _).append_left _).count_le a).trans ?_
  rw [List.filterMap_append, ← List.append_assoc, List.count_append]
  exact le_rfl

/-- A command is taken from the queue: what it asks for is gone from there. -/
theorem count_requests_taken {x y : Mux N} {p : Post} (hx : x.queue = p :: y.queue)
    (id : ResourceId) :
    x.requests.count id = (Node.postedId p.command).toList.count id + y.requests.count id := by
  rw [requests, hx, requests, ← List.count_append]
  change (List.filterMap _ ([p] ++ y.queue)).count id = _
  rw [List.filterMap_append]
  congr 1

/-- The arrival that it brings is gone too, and others are to be posted. -/
theorem count_cargo_taken {x y : Mux N} {p : Post} {es : List Effect} (hx : x.queue = p :: y.queue)
    (hpending : x.phase.pending = []) (hy : y.phase.pending = es.map .effect) (a : Arrival) :
    y.cargo.count a + p.command.arrival.toList.count a =
      x.cargo.count a + (arrivals es).count a := by
  have hqueue : (x.queue.filterMap fun p ↦ p.command.arrival).count a =
      p.command.arrival.toList.count a + (y.queue.filterMap fun p ↦ p.command.arrival).count a := by
    rw [hx, ← List.count_append]
    change (List.filterMap _ ([p] ++ y.queue)).count a = _
    rw [List.filterMap_append]
    congr 1
  rw [cargo, cargo, List.count_append, List.count_append, hqueue, hpending, hy,
    filterMap_arrival_effects, List.filterMap_nil, List.count_nil]
  omega

end Mux

/-- The streams that have got an id. -/
def History.created (h : History N) : List Arrival :=
  h.filterMap fun
    | .created _ a => some a
    | _ => none

/-- The streams that have been registered. -/
def History.registered (h : History N) : List Arrival :=
  h.filterMap fun
    | .registered _ _ a => some a
    | _ => none

theorem History.created_append (h h' : History N) : created (h ++ h') = h.created ++ h'.created :=
  List.filterMap_append

theorem History.registered_append (h h' : History N) :
    registered (h ++ h') = h.registered ++ h'.registered := List.filterMap_append

theorem History.mem_registered {h : History N} {a : Arrival} :
    a ∈ h.registered ↔ ∃ m t, .registered m t a ∈ h := by
  rw [registered, List.mem_filterMap]
  constructor
  · rintro ⟨e, he, h⟩
    cases e <;> cases h
    exact ⟨_, _, he⟩
  · rintro ⟨m, t, h⟩
    exact ⟨_, h, rfl⟩

/-- No entry is about a new stream. -/
theorem History.created_eq_nil {h : History N} (hnone : ∀ e ∈ h, ∀ m a, e ≠ .created m a) :
    h.created = [] := by
  refine List.filterMap_eq_nil_iff.2 fun e he ↦ ?_
  cases e with
  | created m a => exact absurd rfl (hnone _ he m a)
  | _ => rfl

/-- No entry is about a registration. -/
theorem History.registered_eq_nil {h : History N}
    (hnone : ∀ e ∈ h, ∀ m t a, e ≠ .registered m t a) :
    h.registered = [] := by
  refine List.filterMap_eq_nil_iff.2 fun e he ↦ ?_
  cases e with
  | registered m t a => exact absurd rfl (hnone _ he m t a)
  | _ => rfl

theorem created_departures (transports : List Transport) (m : Ctl N) (ps : Processors)
    (p : Action Processors) (id : ResourceId) :
    (departures transports m ps p id).created = [] := by
  refine History.created_eq_nil fun e he ↦ ?_
  obtain ⟨t, ps', -, -, -, -, rfl⟩ := mem_departures.1 he
  exact nofun

theorem registered_departures (transports : List Transport) (m : Ctl N) (ps : Processors)
    (p : Action Processors) (id : ResourceId) :
    (departures transports m ps p id).registered = [] := by
  refine History.registered_eq_nil fun e he ↦ ?_
  obtain ⟨t, ps', -, -, -, -, rfl⟩ := mem_departures.1 he
  exact nofun

namespace Node

/-- The generator of a type of resource. -/
def generator (s : Node N) : ResourceType → ResourceIdGenerator
  | .remote => s.rgen
  | .local => s.lgen

/-- How often an id is held, is in a command that the master has not taken, or is that of a
stream. -/
def tokens (s : Node N) (id : ResourceId) : Nat :=
  s.held.count id + (Transition.census (fun x ↦ x.requests.count id) s.muxes +
    (s.history.created.map Arrival.id).count id)

/-- How often a stream with its id is in a command, or has been registered. -/
def shipments (s : Node N) (a : Arrival) : Nat :=
  Transition.census (fun x ↦ x.cargo.count a) s.muxes + s.history.registered.count a

/-- **No id and no stream is in two places at once.** -/
structure Tokens (s : Node N) : Prop where
  once : ∀ id, s.tokens id ≤ 1
  /-- An id in use has been handed out. -/
  generated : ∀ id, 0 < s.tokens id → id.baseValue.toNat < (s.generator id.resourceType).last
  types : ∀ type, (s.generator type).resourceType = type
  shipped : ∀ a, s.shipments a ≤ s.history.created.count a
  /-- Streams get their names in order. -/
  streams : (s.history.created.map Arrival.stream).Nodup
  named : ∀ a ∈ s.history.created, a.stream.name < s.streams

theorem tokens_new : (new N).Tokens where
  once id := by
    have h : (new N).tokens id = 0 :=
      Nat.add_eq_zero_iff.2 ⟨rfl,
        Nat.add_eq_zero_iff.2 ⟨Transition.census_eq_zero fun _ ↦ rfl, rfl⟩⟩
    omega
  generated id h := by
    have h0 : (new N).tokens id = 0 :=
      Nat.add_eq_zero_iff.2 ⟨rfl,
        Nat.add_eq_zero_iff.2 ⟨Transition.census_eq_zero fun _ ↦ rfl, rfl⟩⟩
    omega
  types type := by cases type <;> rfl
  shipped a := by
    have h : (new N).shipments a = 0 :=
      Nat.add_eq_zero_iff.2 ⟨Transition.census_eq_zero fun _ ↦ rfl, rfl⟩
    omega
  streams := List.nodup_nil
  named _ h := absurd h List.not_mem_nil

/-! ## Counting after a step -/

section

variable {s s' : Node N} {m : Ctl N} {x : Mux N}

theorem census_of_update (f : Mux N → Nat) (hmuxes : s'.muxes = Function.update s.muxes m x) :
    Transition.census f s'.muxes + f (s.muxes m) = Transition.census f s.muxes + f x := by
  rw [hmuxes]
  exact Transition.census_update f s.muxes m x

theorem tokens_enqueue (s : Node N) (m : Ctl N) (c : WakerCommand) (id : ResourceId) :
    (s.enqueue m c).tokens id ≤ s.tokens id + (postedId c).toList.count id := by
  have hle := (census_of_update (fun x ↦ x.requests.count id)
    (s.muxes_enqueue (m := m) c)).trans_le
      (Nat.add_le_add_left (Mux.count_requests_enqueue _ c _ id) _)
  have hheld : (s.enqueue m c).held = s.held := rfl
  rw [tokens, tokens, history_enqueue, hheld]
  omega

theorem shipments_enqueue (s : Node N) (m : Ctl N) (c : WakerCommand) (a : Arrival) :
    (s.enqueue m c).shipments a ≤ s.shipments a + c.arrival.toList.count a := by
  have hle := (census_of_update (fun x ↦ x.cargo.count a) (s.muxes_enqueue (m := m) c)).trans_le
    (Nat.add_le_add_left (Mux.count_cargo_enqueue _ c _ a) _)
  rw [shipments, shipments, history_enqueue]
  omega

/-- No id is in more places where the queues have no more in them and the streams are the
same. -/
theorem tokens_update (hmuxes : s'.muxes = Function.update s.muxes m x)
    (hqueue : x.queue.Sublist (s.muxes m).queue) (hheld : s'.held = s.held)
    (hcreated : s'.history.created = s.history.created) (id : ResourceId) :
    s'.tokens id ≤ s.tokens id := by
  have hcensus := census_of_update (fun x ↦ x.requests.count id) hmuxes
  have hrequests := Mux.count_requests_le hqueue id
  rw [tokens, tokens, hheld, hcreated]
  omega

/-- The streams in the hands of a thread and in its queue. -/
theorem count_cargo (y : Mux N) (a : Arrival) :
    y.cargo.count a = (y.phase.pending.filterMap Pending.arrival).count a +
      (y.queue.filterMap fun p ↦ p.command.arrival).count a := List.count_append

/-- What is posted next changes with the phase of a thread. -/
theorem shipments_update (hmuxes : s'.muxes = Function.update s.muxes m x)
    (hqueue : x.queue = (s.muxes m).queue)
    (hregistered : s'.history.registered = s.history.registered) (a : Arrival) :
    s'.shipments a + ((s.muxes m).phase.pending.filterMap Pending.arrival).count a =
      s.shipments a + (x.phase.pending.filterMap Pending.arrival).count a := by
  have hcensus := census_of_update (fun x ↦ x.cargo.count a) hmuxes
  rw [count_cargo x, count_cargo (s.muxes m), hqueue] at hcensus
  rw [shipments, shipments, hregistered]
  omega

/-- A thread that ends drops what was in its queue. -/
theorem shipments_update_le (hmuxes : s'.muxes = Function.update s.muxes m x)
    (hqueue : x.queue.Sublist (s.muxes m).queue)
    (hregistered : s'.history.registered = s.history.registered) (a : Arrival) :
    s'.shipments a + ((s.muxes m).phase.pending.filterMap Pending.arrival).count a ≤
      s.shipments a + (x.phase.pending.filterMap Pending.arrival).count a := by
  have hcensus := census_of_update (fun x ↦ x.cargo.count a) hmuxes
  rw [count_cargo x, count_cargo (s.muxes m)] at hcensus
  have hle := (hqueue.filterMap fun p ↦ p.command.arrival).count_le a
  rw [shipments, shipments, hregistered]
  omega

/-! ## Every step keeps the count -/

/-- No id moves, and no stream but out of sight. -/
theorem Tokens.of_same (h : s.Tokens) (htokens : ∀ id, s'.tokens id ≤ s.tokens id)
    (hshipments : ∀ a, s'.shipments a ≤ s.shipments a)
    (hcreated : s'.history.created = s.history.created) (hgenerator : s'.generator = s.generator)
    (hstreams : s'.streams = s.streams) : s'.Tokens where
  once id := (htokens id).trans (h.once id)
  generated id hid := hgenerator ▸ h.generated id (Nat.lt_of_lt_of_le hid (htokens id))
  types := hgenerator ▸ h.types
  shipped a := hcreated ▸ (hshipments a).trans (h.shipped a)
  streams := hcreated ▸ h.streams
  named a ha := hstreams ▸ h.named a (hcreated ▸ ha)

/-- A thread changes, and has no more to post than before. -/
theorem Tokens.of_update (h : s.Tokens) (hmuxes : s'.muxes = Function.update s.muxes m x)
    (hqueue : x.queue.Sublist (s.muxes m).queue)
    (hpending : ∀ a, (x.phase.pending.filterMap Pending.arrival).count a ≤
      ((s.muxes m).phase.pending.filterMap Pending.arrival).count a)
    (hheld : s'.held = s.held) (hgenerator : s'.generator = s.generator)
    (hstreams : s'.streams = s.streams) (hcreated : s'.history.created = s.history.created)
    (hregistered : s'.history.registered = s.history.registered) : s'.Tokens := by
  refine h.of_same (tokens_update hmuxes hqueue hheld hcreated) (fun a ↦ ?_) hcreated hgenerator
    hstreams
  have hupdate := shipments_update_le hmuxes hqueue hregistered a
  have hle := hpending a
  omega

theorem Tokens.setPhase {φ : Phase N} (h : s.Tokens)
    (hpending : ∀ a, (φ.pending.filterMap Pending.arrival).count a ≤
      ((s.muxes m).phase.pending.filterMap Pending.arrival).count a) : (s.setPhase m φ).Tokens :=
  h.of_update (muxes_setPhase φ) (φ.keeps_sublist _) hpending rfl rfl rfl rfl rfl

/-- A wake moves nothing. -/
theorem Tokens.wake (h : s.Tokens) : (s.wake m).Tokens :=
  h.of_update muxes_wake (.refl _) (fun _ ↦ le_rfl) rfl rfl rfl rfl rfl

/-- So do the entries that are not about new streams. -/
theorem Tokens.record {entries : History N} (h : s.Tokens) (hcreated : entries.created = [])
    (hregistered : entries.registered = []) : (s.record entries).Tokens := by
  have hc : (s.record entries).history.created = s.history.created := by
    rw [history_record, History.created_append, hcreated, List.nil_append]
  have hr : (s.record entries).history.registered = s.history.registered := by
    rw [history_record, History.registered_append, hregistered, List.nil_append]
  refine h.of_same (fun id ↦ ?_) (fun a ↦ ?_) hc rfl rfl
  · rw [tokens, hc]
    rfl
  · rw [shipments, hr]
    exact le_rfl

end

section Step

variable [NeZero N] {transports : List Transport} {s s' : Node N} {m : Ctl N} {a : Answers}

/-- What is posted goes from the thread to the queue. -/
theorem Tokens.perform {e : Effect} {pending : List (Pending N)} {tasks : List Task} (h : s.Tokens)
    (hphase : (s.muxes m).phase = .busy (.effect e :: pending) tasks)
    (hposts : ∀ id c, e = .post id c → postedId c = none) :
    (s.perform m pending tasks e).Tokens := by
  have hset : ∀ a,
      ((Phase.busy pending tasks : Phase N).pending.filterMap Pending.arrival).count a ≤
      ((s.muxes m).phase.pending.filterMap Pending.arrival).count a := by
    intro a
    rw [hphase]
    exact (List.Sublist.filterMap _ (List.sublist_cons_self _ _)).count_le a
  cases e with
  | emit e => exact (h.setPhase hset).record rfl rfl
  | call cb reply => exact (h.setPhase hset).record rfl rfl
  | write w => exact h.setPhase hset
  | post id c =>
      have hmuxes := s.muxes_setPhase (m := m) (.busy (.wake (workerOf id) :: pending) tasks)
      refine h.of_same (fun id' ↦ ?_) (fun a ↦ ?_) rfl rfl rfl
      · refine (tokens_enqueue _ _ c id').trans ?_
        rw [hposts id c rfl]
        exact tokens_update hmuxes (.refl _) rfl rfl id'
      · have hupdate := shipments_update hmuxes rfl rfl a
        have hcons : ((s.muxes m).phase.pending.filterMap Pending.arrival).count a =
            c.arrival.toList.count a + (pending.filterMap Pending.arrival).count a := by
          rw [hphase, Phase.pending_busy, ← List.count_append]
          change (List.filterMap Pending.arrival ([.effect (.post id c)] ++ pending)).count a = _
          rw [List.filterMap_append]
          congr 1
        have hwake :
            ((Phase.busy (.wake (workerOf id) :: pending) tasks : Phase N).pending.filterMap
              Pending.arrival).count a = (pending.filterMap Pending.arrival).count a := rfl
        change _ + _ = _ +
          ((Phase.busy (.wake (workerOf id) :: pending) tasks : Phase N).pending.filterMap
            Pending.arrival).count a at hupdate
        have hle := shipments_enqueue
          (s.setPhase m (.busy (.wake (workerOf id) :: pending) tasks)) (workerOf id) c a
        rw [Node.perform]
        omega

end Step

section

variable {transports : List Transport} {s : Node N} {m : Ctl N} {a : Answers}

/-- A poll event of a remote moves nothing. -/
theorem Tokens.remote {id : ResourceId} {e : PollEvent} {p : Action Processors} {tasks : List Task}
    (h : s.Tokens) (hevent : RemoteEvent transports (s.muxes m).processors a id e p) :
    (s.processRemote transports m id p tasks).Tokens := by
  have harrivals : arrivals p.effects = [] := by
    have hposts : posts p.effects = [] := by
      refine List.filterMap_eq_nil_iff.2 fun e' he' ↦ ?_
      obtain ⟨event, rfl, -⟩ := hevent.spec.effects e' he'
      rfl
    rw [arrivals, hposts, List.filterMap_nil]
  have hproceed : (s.setMux m ((s.muxes m).proceed p tasks)).Tokens := by
    refine h.of_update muxes_setMux (by rw [Mux.queue_proceed]) (fun a ↦ ?_) rfl rfl rfl rfl rfl
    rw [Mux.pending_proceed, filterMap_arrival_effects, harrivals]
    exact Nat.zero_le _
  exact hproceed.record (created_departures ..) (registered_departures ..)

variable {ps : Processors} {p : Post} {done : Action Processors}

/-- A command that is taken names the streams that it sends on their way. -/
theorem created_postEntries :
    (postEntries transports m ps p done).created = arrivals done.effects := by
  have hdepartures : History.created (p.command.target.toList.flatMap
      (departures transports m ps done)) = [] := by
    cases p.command.target with
    | none => rfl
    | some id => exact (congrArg History.created (List.append_nil _)).trans (created_departures ..)
  have hregistrations : History.created (p.command.arrival.toList.flatMap
      (registrations transports m done)) = [] := by
    refine History.created_eq_nil fun e he ↦ ?_
    obtain ⟨a, -, he⟩ := List.mem_flatMap.1 he
    obtain ⟨t, ps', -, -, rfl⟩ := mem_registrations.1 he
    exact nofun
  have hcreated : History.created ((arrivals done.effects).map (.created m)) =
      arrivals done.effects := by
    rw [History.created, List.filterMap_map]
    exact List.filterMap_some
  rw [postEntries, History.created_append, hdepartures, History.created_append, hregistrations,
    History.created_append, hcreated]
  exact List.append_nil _

/-- A command that is taken registers its stream, or nothing. -/
theorem registered_postEntries (a : Arrival) :
    (postEntries transports m ps p done).registered.count a ≤ p.command.arrival.toList.count a := by
  have hdepartures : History.registered (p.command.target.toList.flatMap
      (departures transports m ps done)) = [] := by
    cases p.command.target with
    | none => rfl
    | some id =>
        exact (congrArg History.registered (List.append_nil _)).trans (registered_departures ..)
  have hcreated : History.registered ((arrivals done.effects).map (.created m)) = [] := by
    refine History.registered_eq_nil fun e he ↦ ?_
    obtain ⟨_, -, rfl⟩ := List.mem_map.1 he
    exact nofun
  have hregistrations : (History.registered (p.command.arrival.toList.flatMap
      (registrations transports m done))).count a ≤ p.command.arrival.toList.count a := by
    cases p.command.arrival with
    | none => exact le_rfl
    | some a' =>
        rw [Option.toList_some, List.flatMap_singleton, registrations]
        split
        · exact le_rfl
        · exact Nat.zero_le _
  rw [postEntries, History.registered_append, hdepartures, History.registered_append,
    History.registered_append, hcreated]
  change (History.registered (p.command.arrival.toList.flatMap
    (registrations transports m done)) ++ []).count a ≤ _
  rwa [List.append_nil]

variable {queue : List Post} {tasks : List Task} {env : CommandEnv}

/-- What a connection brings is no more than what was asked for. -/
theorem count_arrivals_processCommand (transports : List Transport) (ps : Processors)
    (c : WakerCommand) (env : CommandEnv)
    (id : ResourceId) :
    ((arrivals (processCommand transports ps c env).effects).map Arrival.id).count id ≤
      (postedId c).toList.count id := by
  rcases arrivals_processCommand transports ps c env with h | ⟨_, id', _, _, a, rfl, h, rfl, -, -⟩
  · rw [h]
    exact Nat.zero_le _
  · rw [h]
    exact le_rfl

/-- New streams get new names. -/
theorem Tokens.of_arrivals {s' : Node N} {new : List Arrival} (h : s.Tokens)
    (hnew : new = [] ∨ ∃ a, new = [a] ∧ a.stream = ⟨s.streams⟩)
    (hcreated : s'.history.created = new ++ s.history.created)
    (hstreams : s'.streams = s.streams + 1) (honce : ∀ id, s'.tokens id ≤ 1)
    (hgenerated : ∀ id, 0 < s'.tokens id →
      id.baseValue.toNat < (s'.generator id.resourceType).last)
    (htypes : ∀ type, (s'.generator type).resourceType = type)
    (hshipments : ∀ a, s'.shipments a ≤ s.shipments a + new.count a) : s'.Tokens where
  once := honce
  generated := hgenerated
  types := htypes
  shipped a := by
    have hshipped := h.shipped a
    have hle := hshipments a
    rw [hcreated, List.count_append]
    omega
  streams := by
    rw [hcreated]
    rcases hnew with rfl | ⟨a, rfl, ha⟩
    · exact h.streams
    · refine List.nodup_cons.2 ⟨fun hmem ↦ ?_, h.streams⟩
      obtain ⟨a', ha', heq⟩ := List.mem_map.1 hmem
      have hlt := h.named a' ha'
      rw [heq, ha] at hlt
      exact Nat.lt_irrefl _ hlt
  named a ha := by
    rw [hcreated] at ha
    rw [hstreams]
    rcases List.mem_append.1 ha with ha | ha
    · rcases hnew with rfl | ⟨a', rfl, ha'⟩
      · cases ha
      · cases List.mem_singleton.1 ha
        rw [ha']
        exact Nat.lt_succ_self _
    · exact (h.named a ha).trans (Nat.lt_succ_self _)

/-- **A command is taken from the queue**: its id becomes that of a stream, or its stream is
registered. -/
theorem Tokens.taken {s' : Node N} {x : Mux N} (h : s.Tokens)
    (hmuxes : s'.muxes = Function.update s.muxes m x) (hpending : (s.muxes m).phase.pending = [])
    (hqueue : (s.muxes m).queue = p :: x.queue)
    (hdone : processCommand transports (s.muxes m).processors p.command
      (env.withStream ⟨s.streams⟩) = done)
    (hx : x.phase.pending = done.effects.map .effect) (hheld : s'.held = s.held)
    (hgenerator : s'.generator = s.generator) (hstreams : s'.streams = s.streams + 1)
    (hhistory : s'.history = postEntries transports m ps p done ++ s.history) : s'.Tokens := by
  have hcreated : s'.history.created = arrivals done.effects ++ s.history.created := by
    rw [hhistory, History.created_append, created_postEntries]
  have htokens : ∀ id, s'.tokens id ≤ s.tokens id := by
    intro id
    have hcensus := census_of_update (fun x ↦ x.requests.count id) hmuxes
    have hrequests := Mux.count_requests_taken hqueue id
    have hasked := count_arrivals_processCommand transports (s.muxes m).processors p.command
      (env.withStream ⟨s.streams⟩) id
    rw [hdone] at hasked
    rw [tokens, tokens, hcreated, List.map_append, List.count_append, hheld]
    omega
  refine h.of_arrivals ?_ hcreated hstreams (fun id ↦ (htokens id).trans (h.once id))
    (fun id hid ↦ hgenerator ▸ h.generated id (Nat.lt_of_lt_of_le hid (htokens id)))
    (hgenerator ▸ h.types) fun a ↦ ?_
  · rw [← hdone]
    rcases arrivals_processCommand transports (s.muxes m).processors p.command
      (env.withStream ⟨s.streams⟩) with hnone | ⟨_, _, _, _, a, _, hone, _, hstream, -⟩
    · exact .inl hnone
    · exact .inr ⟨a, hone, hstream⟩
  · have hcensus := census_of_update (fun x ↦ x.cargo.count a) hmuxes
    have hcargo := Mux.count_cargo_taken hqueue hpending hx a
    have hregistered : (postEntries transports m ps p done).registered.count a ≤ _ :=
      registered_postEntries a
    rw [shipments, shipments, hhistory, History.registered_append, List.count_append]
    omega

theorem Tokens.post (h : s.Tokens) (hpending : (s.muxes m).phase.pending = [])
    (hqueue : (s.muxes m).queue = p :: queue) :
    (s.processPost transports m { s.muxes m with queue } p tasks env).Tokens :=
  h.taken (muxes_processPost ..) hpending (by rwa [Mux.queue_proceed]) rfl
    (Mux.pending_proceed ..) rfl rfl rfl rfl

end

/-! ## New ids -/

section

variable {s s' : Node N} {m : Ctl N}

/-- An id that is handed out has not been in use. -/
theorem Tokens.fresh {type : ResourceType} {adapterId : BitVec 8} {id : ResourceId} (h : s.Tokens)
    (hid : ((s.generator type).generate adapterId).1 = some id) :
    s.tokens id = 0 ∧ id.resourceType = type ∧ id.baseValue.toNat = (s.generator type).last := by
  obtain ⟨htype, -, hbase⟩ := ResourceIdGenerator.generate_some hid
  rw [h.types type] at htype
  refine ⟨?_, htype, hbase⟩
  by_contra hne
  have hlt := h.generated id (Nat.pos_of_ne_zero hne)
  rw [htype, hbase] at hlt
  exact Nat.lt_irrefl _ hlt

/-- What holds of the ids when a generator has been asked for one. -/
theorem Tokens.handed_out (h : s.Tokens) (type : ResourceType) (adapterId : BitVec 8)
    (htokens : ∀ id, s'.tokens id =
      s.tokens id + ((s.generator type).generate adapterId).1.toList.count id)
    (hgenerator : s'.generator =
      Function.update s.generator type ((s.generator type).generate adapterId).2) :
    (∀ id, s'.tokens id ≤ 1) ∧
      (∀ id, 0 < s'.tokens id → id.baseValue.toNat < (s'.generator id.resourceType).last) ∧
        ∀ type, (s'.generator type).resourceType = type := by
  have hlast : ∀ type', (s.generator type').last ≤ (s'.generator type').last ∧
      (s'.generator type').resourceType = (s.generator type').resourceType := by
    intro type'
    rw [hgenerator]
    by_cases htype : type' = type
    · subst htype
      rw [Function.update_self]
      exact ⟨Nat.le_succ _, rfl⟩
    · rw [Function.update_of_ne htype]
      exact ⟨le_rfl, rfl⟩
  have hnew : ∀ id, ((s.generator type).generate adapterId).1.toList.count id = 0 ∨
      ((s.generator type).generate adapterId).1 = some id ∧
        ((s.generator type).generate adapterId).1.toList.count id = 1 := by
    intro id
    cases hid : ((s.generator type).generate adapterId).1 with
    | none => exact .inl rfl
    | some id' =>
        by_cases heq : id' = id
        · subst heq
          exact .inr ⟨rfl, List.count_singleton_self⟩
        · left
          rw [Option.toList_some, List.count_singleton, if_neg (mt beq_iff_eq.1 heq)]
  refine ⟨fun id ↦ ?_, fun id hid ↦ ?_, fun type' ↦ (hlast type').2.trans (h.types type')⟩
  · rcases hnew id with h0 | ⟨hid, h1⟩
    · rw [htokens, h0]
      exact h.once id
    · rw [htokens, h1, (h.fresh hid).1]
  · rcases hnew id with h0 | ⟨hid', -⟩
    · rw [htokens, h0] at hid
      exact Nat.lt_of_lt_of_le (h.generated id hid) (hlast _).1
    · obtain ⟨-, htype, hbase⟩ := h.fresh hid'
      rw [htype, hbase, hgenerator, Function.update_self]
      exact Nat.lt_succ_self _

/-- `next_remote_id` and `next_local_id` -/
theorem Tokens.generate (h : s.Tokens) (type : ResourceType) (t : Transport) :
    (s.generateId type t).Tokens := by
  have htokens : ∀ id, (s.generateId type t).tokens id =
      s.tokens id + ((s.generator type).generate t.id).1.toList.count id := by
    intro id
    have hcount : ∀ new : List ResourceId,
        (new ++ s.held).count id + (Transition.census (fun x ↦ x.requests.count id) s.muxes +
          (s.history.created.map Arrival.id).count id) = s.tokens id + new.count id := by
      intro new
      rw [List.count_append, tokens]
      omega
    cases type with
    | remote => exact hcount _
    | «local» => exact hcount _
  have hgenerator : (s.generateId type t).generator =
      Function.update s.generator type ((s.generator type).generate t.id).2 := by
    funext type'
    cases type <;> cases type' <;> rfl
  have hsame : (s.generateId type t).history = s.history ∧ (s.generateId type t).muxes = s.muxes ∧
      (s.generateId type t).streams = s.streams := by
    cases type <;> exact ⟨rfl, rfl, rfl⟩
  obtain ⟨honce, hgenerated, htypes⟩ := h.handed_out type t.id htokens hgenerator
  refine ⟨honce, hgenerated, htypes, fun a ↦ ?_, ?_, fun a ha ↦ ?_⟩
  · rw [shipments, hsame.1, hsame.2.1]
    exact h.shipped a
  · rw [hsame.1]
    exact h.streams
  · rw [hsame.1] at ha
    rw [hsame.2.2]
    exact h.named a ha

/-- What the user posts takes the id that was held for it. -/
theorem Tokens.enqueue {s' : Node N} [NeZero N] {c : WakerCommand} (h : s.Tokens)
    (hposts : s.Posts m c)
    (hmuxes : s'.muxes = (s.enqueue m c).muxes)
    (hheld : s'.held = (postedId c).elim s.held s.held.erase)
    (hgenerator : s'.generator = s.generator)
    (hstreams : s'.streams = s.streams) (hhistory : s'.history = s.history) : s'.Tokens := by
  have harrival : c.arrival = none := by
    cases c with
    | acceptRegisterRemote localPair remotePair stream payload => exact hposts.elim
    | connectRegisterRemote localAddr remotePair stream payload cb => exact hposts.elim
    | _ => rfl
  have hcount : ∀ id, s'.held.count id + (postedId c).toList.count id = s.held.count id := by
    intro id
    rw [hheld]
    cases hid : postedId c with
    | none => rfl
    | some id' =>
        have hmem : id' ∈ s.held := by
          cases c with
          | listen config localId addr cb =>
              cases hid
              exact hposts.2.1
          | connect config remoteId raddr cb =>
              cases hid
              exact hposts.2.1
          | _ => cases hid
        rw [(List.perm_cons_erase hmem).count_eq id, ← List.singleton_append, List.count_append,
          Nat.add_comm]
        rfl
  refine h.of_same (fun id ↦ ?_) (fun a ↦ ?_)
    (congrArg History.created hhistory) hgenerator hstreams
  · have henqueue := tokens_enqueue s m c id
    have hheld' := hcount id
    rw [tokens, hmuxes, hhistory]
    rw [tokens, history_enqueue] at henqueue
    change s.held.count id + _ ≤ _ at henqueue
    omega
  · have henqueue := shipments_enqueue s m c a
    rw [harrival] at henqueue
    rw [shipments, hmuxes, hhistory]
    exact henqueue

/-- The stream of an accepted connection has the next name. -/
theorem stream_acceptEnv {id : ResourceId} {env : AcceptEnv} {stream : TcpStream}
    {addr : SocketAddr}
    (h : (s.acceptEnv id env).accept = .ok stream addr) : stream = ⟨s.streams⟩ := by
  obtain ⟨accept, localAddr, remoteId⟩ := env
  cases accept with
  | ok stream' addr' =>
      cases h
      rfl
  | err kind => cases h

/-- A turn of the accept loop names the streams that it sends on their way. -/
theorem created_acceptFrom (s : Node N) (m : Ctl N) {t : Transport} (l : t.LocalResource)
    (id : ResourceId) (tasks : List Task) (env : AcceptEnv) :
    (s.acceptFrom m t l id tasks env).history.created =
      arrivals (Driver.acceptTurn l id (s.acceptEnv id env)).effects ++ s.history.created := by
  have haccepted : ∀ as : List (TcpStream × SocketAddr),
      History.created (as.map fun a ↦ Entry.accepted m id a.1 a.2) = [] := by
    intro as
    refine History.created_eq_nil fun e he ↦ ?_
    obtain ⟨_, -, rfl⟩ := List.mem_map.1 he
    exact nofun
  have hnew : ∀ as : List Arrival, History.created (as.map (.created m)) = as := by
    intro as
    rw [History.created, List.filterMap_map]
    exact List.filterMap_some
  refine (History.created_append _ _).trans (congrArg (· ++ s.history.created) ?_)
  rw [History.created_append, hnew, haccepted, List.append_nil]

/-- **A stream is accepted** and gets a new id. -/
theorem Tokens.accept {t : Transport} {l : t.LocalResource} {id : ResourceId} {tasks : List Task}
    {env : AcceptEnv} (h : s.Tokens) (hpending : (s.muxes m).phase.pending = []) :
    (s.acceptFrom m t l id tasks env).Tokens := by
  have hcreated := created_acceptFrom s m l id tasks env
  have hregistered :
      (s.acceptFrom m t l id tasks env).history.registered = s.history.registered := by
    refine (History.registered_append _ _).trans ?_
    rw [History.registered_eq_nil, List.nil_append]
    intro e he
    rcases List.mem_append.1 he with he | he
    · obtain ⟨_, -, rfl⟩ := List.mem_map.1 he
      exact nofun
    · obtain ⟨_, -, rfl⟩ := List.mem_map.1 he
      exact nofun
  have hmuxes := s.muxes_acceptFrom m l id tasks env
  have htokens : ∀ id', (s.acceptFrom m t l id tasks env).tokens id' = s.tokens id' +
      ((arrivals (Driver.acceptTurn l id (s.acceptEnv id env)).effects).map Arrival.id).count
        id' := by
    intro id'
    have hcensus := census_of_update (fun x ↦ x.requests.count id') hmuxes
    change _ + (s.muxes m).requests.count id' = _ + (s.muxes m).requests.count id' at hcensus
    rw [tokens, tokens, hcreated, List.map_append, List.count_append]
    change s.held.count id' + _ = _
    omega
  have hshipments : ∀ a, (s.acceptFrom m t l id tasks env).shipments a ≤ s.shipments a +
      (arrivals (Driver.acceptTurn l id (s.acceptEnv id env)).effects).count a := by
    intro a
    have hupdate := shipments_update hmuxes rfl hregistered a
    rw [hpending, pending_acceptPhase, filterMap_arrival_effects] at hupdate
    exact le_of_eq hupdate
  obtain ⟨payload, hpayload⟩ := Driver.localAcceptTurn_eq t l
  have hturn := Driver.acceptTurn_spec hpayload id (s.acceptEnv id env)
  have hstreams : (s.acceptFrom m t l id tasks env).streams = s.streams + 1 := rfl
  have hrgen : (s.acceptFrom m t l id tasks env).generator =
      if generates (s.acceptEnv id env) then
        Function.update s.generator .remote ((s.generator .remote).generate id.adapterId).2
      else s.generator := by
    funext type
    split
    · rename_i hgenerates
      cases type with
      | remote => exact if_pos hgenerates
      | «local» => rfl
    · rename_i hgenerates
      cases type with
      | remote => exact if_neg hgenerates
      | «local» => rfl
  generalize s.acceptFrom m t l id tasks env = s' at *
  generalize Driver.acceptTurn l id (s.acceptEnv id env) = turn at *
  cases hturn with
  | @sent stream addr localAddr remoteId haccept hlocal hremote =>
      have hgenerate : ((s.generator .remote).generate id.adapterId).1 = some remoteId := hremote
      rw [if_pos (by rw [generates, haccept, hlocal]; rfl)] at hrgen
      obtain ⟨honce, hgenerated, htypes⟩ := h.handed_out .remote id.adapterId
        (fun id' ↦ by rw [htokens, hgenerate]; rfl) hrgen
      exact h.of_arrivals (.inr ⟨_, rfl, stream_acceptEnv haccept⟩) hcreated hstreams honce
        hgenerated htypes hshipments
  | noId haccept hlocal hremote =>
      have hgenerate : ((s.generator .remote).generate id.adapterId).1 = none := hremote
      rw [if_pos (by rw [generates, haccept, hlocal]; rfl)] at hrgen
      obtain ⟨honce, hgenerated, htypes⟩ := h.handed_out .remote id.adapterId
        (fun id' ↦ by rw [htokens, hgenerate]; rfl) hrgen
      exact h.of_arrivals (.inl rfl) hcreated hstreams honce hgenerated htypes hshipments
  | noAddr haccept hlocal =>
      rw [if_neg (by rw [generates, hlocal, Bool.and_eq_true]; exact fun h ↦ nomatch h.2)] at hrgen
      refine h.of_arrivals (.inl rfl) hcreated hstreams (fun id' ↦ ?_) (fun id' hid' ↦ ?_)
        (hrgen ▸ h.types) hshipments
      · exact (htokens id').symm ▸ h.once id'
      · exact hrgen ▸ h.generated id' ((htokens id').trans (Nat.add_zero _) ▸ hid')
  | nothing haccept =>
      rw [if_neg (by rw [generates, haccept, Bool.and_eq_true]; exact fun h ↦ nomatch h.1)] at hrgen
      refine h.of_arrivals (.inl rfl) hcreated hstreams (fun id' ↦ ?_) (fun id' hid' ↦ ?_)
        (hrgen ▸ h.types) hshipments
      · exact (htokens id').symm ▸ h.once id'
      · exact hrgen ▸ h.generated id' ((htokens id').trans (Nat.add_zero _) ▸ hid')

/-- **Every step keeps the count**, if the user goes through `NodeHandler`. -/
theorem Tokens.step [NeZero N] {transports : List Transport} {b : Step N} (h : s.Tokens)
    (hroutes : s.Routes) (huses : s.UsesHandler b) (hs : s.step transports b = some s') :
    s'.Tokens := by
  cases b with
  | generate type t =>
      rw [Node.step] at hs
      split at hs
      · cases hs
        exact h.generate type t
      · cases hs
  | enqueue m c =>
      cases hs
      exact h.enqueue huses rfl rfl rfl rfl rfl
  | wake m =>
      rw [Node.step] at hs
      split at hs
      · cases hs
        exact h.of_update muxes_wake (.refl _) (fun _ ↦ le_rfl) rfl rfl rfl rfl rfl
      · cases hs
  | stop =>
      cases hs
      exact h.of_same (fun _ ↦ le_rfl) (fun _ ↦ le_rfl) rfl rfl rfl
  | mux m a =>
      cases stepMux_cases hs with
      | control hphase hc =>
          refine h.setPhase fun a ↦ ?_
          rw [hc.pending_eq_nil.2]
          exact Nat.zero_le _
      | poll hphase hreports =>
          exact h.of_update (muxes_polled ..) (.refl _) (fun _ ↦ Nat.zero_le _) rfl rfl rfl rfl rfl
      | effect hphase =>
          refine h.perform hphase fun id c he ↦ ?_
          subst he
          refine (hroutes.posted m id c ?_).postedId
          rw [hphase]
          exact List.mem_cons_self
      | wake hphase =>
          refine (h.setPhase fun a ↦ ?_).wake
          rw [hphase]
          exact le_rfl
      | remote hphase hevent => exact h.remote hevent
      | post hphase hqueue hcount => exact h.post (congrArg Phase.pending hphase) hqueue
      | accept hphase => exact h.accept (congrArg Phase.pending hphase)

/-! ## What the count says -/

/-- Two streams with one id are the same. -/
theorem Tokens.eq_of_id {a a' : Arrival} (h : s.Tokens) (ha : a ∈ s.history.created)
    (ha' : a' ∈ s.history.created) (hid : a.id = a'.id) : a = a' := by
  have hnodup : (s.history.created.map Arrival.id).Nodup := by
    refine List.nodup_iff_count_le_one.2 fun id ↦ (Nat.le_trans ?_ (h.once id))
    rw [tokens]
    omega
  exact List.inj_on_of_nodup_map hnodup ha ha' hid

/-- A stream that is registered has been given its id. -/
theorem Tokens.created_of_registered {t : Transport} {a : Arrival} (h : s.Tokens)
    (ha : .registered m t a ∈ s.history) : a ∈ s.history.created := by
  have hcount := List.one_le_count_iff.2 (History.mem_registered.2 ⟨m, t, ha⟩)
  have hshipped := h.shipped a
  rw [shipments] at hshipped
  exact List.one_le_count_iff.1 (by omega)

/-- A stream that is still in a command has been given its id and is not registered. -/
theorem Tokens.not_registered {p : Post} {a : Arrival} (h : s.Tokens) (hp : p ∈ (s.muxes m).queue)
    (ha : p.command.arrival = some a) :
    ∀ m' t a', .registered m' t a' ∈ s.history → a'.id ≠ a.id := by
  have hcargo : a ∈ (s.muxes m).cargo :=
    List.mem_append_right _ (List.mem_filterMap.2 ⟨p, hp, ha⟩)
  have hcensus := Transition.le_census (fun x : Mux N ↦ x.cargo.count a) s.muxes m
  have hpos : 1 ≤ (s.muxes m).cargo.count a := List.one_le_count_iff.2 hcargo
  have hshipped := h.shipped a
  rw [shipments] at hshipped
  have hcreated : a ∈ s.history.created := List.one_le_count_iff.1 (by omega)
  intro m' t a' ha' hid
  obtain rfl := h.eq_of_id (h.created_of_registered ha') hcreated hid
  have hregistered := List.one_le_count_iff.2 (History.mem_registered.2 ⟨m', t, ha'⟩)
  have honce := h.once a'.id
  have hmap : s.history.created.count a' ≤ (s.history.created.map Arrival.id).count a'.id :=
    List.count_le_count_map
  rw [tokens] at honce
  omega

end

end Node

end MessageIo
