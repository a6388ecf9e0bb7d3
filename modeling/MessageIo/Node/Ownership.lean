import MessageIo.Node.NoPanic
import MessageIo.Node.Tokens

/-!
# Who owns a remote, and what comes after what

A remote is registered with the worker of its id, under the driver of its adapter, and
nowhere else.  The user is told of it after that, so that whatever the user posts about it
is taken from the queue of the same worker later still: it misses the remote only if the
remote has been deregistered in between.

`Owned` is the invariant behind `ownership`.  It rests on `Routes` (commands are where they
belong) and on `Tokens` (no id and no stream is in two places at once).
-/

namespace MessageIo

variable {N : Nat}

/-- The callback of a connection has been called with its endpoint. -/
def History.connectCalled (h : History N) (a : Arrival) : Prop :=
  ∃ m cb addr, .called m cb (.connect (.ok (⟨a.id, a.addr⟩, addr))) ∈ h

namespace Node

/-- What makes an entry come after others: an event of a remote after its registration, and after
the callback if there is one; the callback before every event; and a command about a remote that
had been named to the user, with its worker and after its registration. -/
def Caused (N : Nat) [NeZero N] : Entry N → History N → Prop
  | .called _ _ (.connect (.ok (endpoint, _))), h =>
      (∃ m t a, .registered m t a ∈ h ∧ a.id = endpoint.resourceId) ∧
        ∀ m e, .emitted m (.network e) ∈ h → e.endpoint.resourceId ≠ endpoint.resourceId
  | .emitted _ (.network e), h =>
      ∃ m t a, .registered m t a ∈ h ∧ a.id = e.endpoint.resourceId ∧
        (a.listener = none → h.connectCalled a)
  | .dequeued m p found, h =>
      p.learned = true → ∀ id, p.command.target = some id → id.resourceType = .remote →
        m = workerOf id ∧ ∃ later t a earlier, h = later ++ .registered m t a :: earlier ∧
          a.id = id ∧ (found = true ∨ .deregistered m t id ∈ later)
  | _, _ => True

/-- The effect that calls the callback of a connection. -/
def connectCall (cb : Callback) (endpoint : Endpoint) (addr : SocketAddr) : Pending N :=
  .effect (.call cb (.connect (.ok (endpoint, addr))))

variable [NeZero N]

/-- **The invariant**: what is in the registries and in the hands of the threads, against the
history. -/
structure Owned (transports : List Transport) (s : Node N) : Prop where
  registry : ∀ m t id r, ((s.muxes m).processors t).remote id = some r →
    ∃ a, .registered m t a ∈ s.history ∧ a.id = id ∧ Holds r a
  registered : ∀ m t a, .registered m t a ∈ s.history →
    m = workerOf a.id ∧ getProcessor transports a.id = .ok t
  present : ∀ later m t a earlier, s.history = later ++ .registered m t a :: earlier →
    .deregistered m t a.id ∈ later ∨ (((s.muxes m).processors t).remote a.id).isSome
  called : ∀ m t a, .registered m t a ∈ s.history → a.listener = none →
    (((s.muxes m).processors t).remote a.id).isSome → s.history.connectCalled a ∨
      ∃ cb addr, connectCall cb ⟨a.id, a.addr⟩ addr ∈ (s.muxes m).phase.pending
  calls : ∀ m cb endpoint addr, connectCall cb endpoint addr ∈ (s.muxes m).phase.pending →
    (s.muxes m).phase.pending = [connectCall cb endpoint addr] ∧
      (∃ t a, .registered m t a ∈ s.history ∧ a.id = endpoint.resourceId) ∧
        ∀ m' e, .emitted m' (.network e) ∈ s.history →
          e.endpoint.resourceId ≠ endpoint.resourceId
  emits : ∀ m e, .effect (.emit (.network e)) ∈ (s.muxes m).phase.pending →
    ∃ t a, .registered m t a ∈ s.history ∧ a.id = e.endpoint.resourceId ∧
      (a.listener = none → s.history.connectCalled a)
  learned : ∀ m, ∀ p ∈ (s.muxes m).queue, p.learned = true →
    ∀ id, p.command.target = some id → id.resourceType = .remote →
      ∃ t a, .registered m t a ∈ s.history ∧ a.id = id
  accepted : ∀ m l stream addr, .accepted m l stream addr ∈ s.history →
    stream.name < s.streams ∧
      ∀ a ∈ s.history.created, a.stream = stream → a.listener = some l ∧ a.addr = addr
  caused : Transition.Justified (Caused N) s.history

theorem owned_new (transports : List Transport) : (new N).Owned transports where
  registry _ _ _ _ h := nomatch h
  registered _ _ _ h := absurd h List.not_mem_nil
  present _ _ _ _ _ h := absurd h (List.append_ne_nil_of_right_ne_nil _ (List.cons_ne_nil _ _)).symm
  called _ _ _ h := absurd h List.not_mem_nil
  calls _ _ _ _ h := absurd h List.not_mem_nil
  emits _ _ h := absurd h List.not_mem_nil
  learned _ _ h := absurd h List.not_mem_nil
  accepted _ _ _ _ h := absurd h List.not_mem_nil
  caused := trivial

/-! ## What follows at once -/

variable {transports : List Transport} {s s' : Node N} {m : Ctl N} {a : Answers}

/-- What has been named to the user has been registered. -/
theorem Owned.of_taught {id : ResourceId} (h : s.Owned transports)
    (htaught : s.history.taught id = true) :
    ∃ m t a, .registered m t a ∈ s.history ∧ a.id = id := by
  obtain ⟨e, he, hteaches⟩ := List.any_eq_true.1 htaught
  replace hteaches : e.teaches = some id := of_decide_eq_true hteaches
  obtain ⟨later, earlier, heq, hcaused⟩ := h.caused.of_mem he
  have hmono : ∀ {e}, e ∈ earlier → e ∈ s.history := by
    intro e he
    rw [heq]
    exact List.mem_append_right _ (List.mem_cons_of_mem _ he)
  cases e with
  | called m cb reply =>
      cases reply with
      | connect ret =>
          cases ret with
          | error err => cases hteaches
          | ok named =>
              cases hteaches
              obtain ⟨⟨m', t, a, ha, hid⟩, -⟩ := hcaused
              exact ⟨m', t, a, hmono ha, hid⟩
      | _ => cases hteaches
  | emitted m event =>
      cases event with
      | waker c => cases hteaches
      | network e =>
          cases hteaches
          obtain ⟨m', t, a, ha, hid, -⟩ := hcaused
          exact ⟨m', t, a, hmono ha, hid⟩
  | _ => cases hteaches

/-- A command is learned if it is about a remote that has been named. -/
theorem Owned.of_learned {p : Post} {id : ResourceId} (h : s.Owned transports)
    (hlearned : p.learned = p.command.target.any s.history.taught) (hp : p.learned = true)
    (htarget : p.command.target = some id) :
    ∃ m t a, .registered m t a ∈ s.history ∧ a.id = id := by
  rw [hlearned, htarget] at hp
  exact h.of_taught hp

/-! ## Steps that touch no registry -/

/-- Nothing is recorded and no driver changes. -/
theorem Owned.of_quiet (h : s.Owned transports) (hhistory : s'.history = s.history)
    (hstreams : s'.streams = s.streams)
    (hprocessors : ∀ m, (s'.muxes m).processors = (s.muxes m).processors)
    (hpending : ∀ m, (s'.muxes m).phase.pending = (s.muxes m).phase.pending ∨
      ∃ m', (s.muxes m).phase.pending = .wake m' :: (s'.muxes m).phase.pending)
    (hqueue : ∀ m, ∀ p ∈ (s'.muxes m).queue, p ∈ (s.muxes m).queue ∨
      p.learned = p.command.target.any s.history.taught ∧
        ∀ id, p.command.target = some id → id.resourceType = .remote → m = workerOf id) :
    s'.Owned transports := by
  have hmem : ∀ {m e}, .effect e ∈ (s'.muxes m).phase.pending ↔
      .effect e ∈ (s.muxes m).phase.pending := by
    intro m e
    rcases hpending m with hsame | ⟨m', hwake⟩
    · rw [hsame]
    · rw [hwake, List.mem_cons]
      exact (or_iff_right nofun).symm
  constructor
  · intro m t id r hr
    rw [hprocessors m] at hr
    exact hhistory ▸ h.registry m t id r hr
  · exact hhistory ▸ h.registered
  · intro later m t a earlier heq
    rw [hprocessors m]
    exact h.present later m t a earlier (hhistory ▸ heq)
  · intro m t a ha hlistener hsome
    rw [hprocessors m] at hsome
    rw [hhistory] at ha ⊢
    rcases h.called m t a ha hlistener hsome with hcalled | ⟨cb, addr, hcall⟩
    · exact .inl hcalled
    · exact .inr ⟨cb, addr, hmem.2 hcall⟩
  · intro m cb endpoint addr hcall
    obtain ⟨hone, hregistered, hnone⟩ := h.calls m cb endpoint addr (hmem.1 hcall)
    rw [hhistory]
    refine ⟨?_, hregistered, hnone⟩
    rcases hpending m with hsame | ⟨m', hwake⟩
    · rw [hsame, hone]
    · cases hone.symm.trans hwake
  · intro m e he
    rw [hhistory]
    exact h.emits m e (hmem.1 he)
  · intro m p hp hlearned id htarget hremote
    rw [hhistory]
    rcases hqueue m p hp with hp | ⟨htaught, hrouted⟩
    · exact h.learned m p hp hlearned id htarget hremote
    · obtain ⟨m', t, a, ha, rfl⟩ := h.of_learned htaught hlearned htarget
      obtain rfl := (h.registered m' t a ha).1.trans (hrouted a.id htarget hremote).symm
      exact ⟨t, a, ha, rfl⟩
  · rw [hhistory, hstreams]
    exact h.accepted
  · exact hhistory ▸ h.caused

/-- What the history gains by an effect. -/
def performed (m : Ctl N) : Effect → History N
  | .emit e => [.emitted m e]
  | .call cb reply => [.called m cb reply]
  | _ => []

omit [NeZero N] in
theorem mem_performed {e : Effect} {entry : Entry N} (h : entry ∈ performed m e) :
    (∃ event, e = .emit event ∧ entry = .emitted m event) ∨
      ∃ cb reply, e = .call cb reply ∧ entry = .called m cb reply := by
  cases e with
  | emit event => exact .inl ⟨event, rfl, List.mem_singleton.1 h⟩
  | call cb reply => exact .inr ⟨cb, reply, rfl, List.mem_singleton.1 h⟩
  | post id c => cases h
  | write w => cases h

theorem history_perform (s : Node N) (m : Ctl N) (pending : List (Pending N)) (tasks : List Task)
    (e : Effect) : (s.perform m pending tasks e).history = performed m e ++ s.history := by
  cases e <;> rfl

theorem streams_perform (s : Node N) (m : Ctl N) (pending : List (Pending N)) (tasks : List Task)
    (e : Effect) : (s.perform m pending tasks e).streams = s.streams := by
  cases e <;> rfl

omit [NeZero N] in
/-- What is recorded otherwise has been recorded before. -/
theorem mem_history_of_perform {e : Effect} {entry : Entry N} {h : History N}
    (hentry : entry ∈ performed m e ++ h) (hemitted : ∀ event, entry ≠ .emitted m event)
    (hcalled : ∀ cb reply, entry ≠ .called m cb reply) : entry ∈ h := by
  rcases List.mem_append.1 hentry with hnew | hold
  · rcases mem_performed hnew with ⟨event, -, rfl⟩ | ⟨cb, reply, -, rfl⟩
    · exact absurd rfl (hemitted event)
    · exact absurd rfl (hcalled cb reply)
  · exact hold

/-- What made an effect pending is what has to stand before it. -/
theorem Owned.caused_perform {e : Effect} {pending : List (Pending N)} (h : s.Owned transports)
    (hold : (s.muxes m).phase.pending = .effect e :: pending) :
    Transition.Justified (Caused N) (performed m e ++ s.history) := by
  cases e with
  | post id c => exact h.caused
  | write w => exact h.caused
  | emit event =>
      cases event with
      | waker c => exact ⟨trivial, h.caused⟩
      | network e =>
          obtain ⟨t, a, ha⟩ := h.emits m e (hold ▸ List.mem_cons_self)
          exact ⟨⟨m, t, a, ha⟩, h.caused⟩
  | call cb reply =>
      cases reply with
      | connect ret =>
          rcases ret with err | ⟨endpoint, addr⟩
          · exact ⟨trivial, h.caused⟩
          · obtain ⟨-, ⟨t, a, ha⟩, hnone⟩ :=
              h.calls m cb endpoint addr (hold ▸ List.mem_cons_self)
            exact ⟨⟨⟨m, t, a, ha⟩, hnone⟩, h.caused⟩
      | _ => exact ⟨trivial, h.caused⟩

/-- **An effect is performed.** -/
theorem Owned.perform {e : Effect} {pending : List (Pending N)} {tasks : List Task}
    (h : s.Owned transports) (hroutes : s.Routes) (a : Answers)
    (hphase : (s.muxes m).phase = .busy (.effect e :: pending) tasks) :
    (s.perform m pending tasks e).Owned transports := by
  have hs : MuxStep transports s m a (s.perform m pending tasks e) := .effect hphase
  have hhistory := history_perform s m pending tasks e
  have hstreams := streams_perform s m pending tasks e
  have hprocessors := fun m' ↦ (drivers_perform (s := s) (m := m) e pending tasks m').1
  have hphases := fun m' ↦ phase_perform s m m' e pending tasks
  generalize s.perform m pending tasks e = s' at *
  have hold : (s.muxes m).phase.pending = .effect e :: pending := congrArg Phase.pending hphase
  have hmono : ∀ {entry}, entry ∈ s.history → entry ∈ s'.history := by
    intro entry hentry
    rw [hhistory]
    exact List.mem_append_right _ hentry
  have hregistered : ∀ {m' t a},
      .registered m' t a ∈ s'.history → .registered m' t a ∈ s.history := by
    intro m' t a ha
    rw [hhistory] at ha
    exact mem_history_of_perform ha (fun _ ↦ by rintro ⟨⟩) fun _ _ ↦ by rintro ⟨⟩
  have hcreated : s'.history.created = s.history.created := by
    rw [hhistory, History.created_append, History.created_eq_nil, List.nil_append]
    intro entry hentry
    rcases mem_performed hentry with ⟨_, -, rfl⟩ | ⟨_, _, -, rfl⟩ <;> exact nofun
  -- what is pending in the thread itself was behind the effect
  have hpending : ∀ {m' e'}, .effect e' ∈ (s'.muxes m').phase.pending →
      m' ≠ m ∧ (s'.muxes m').phase = (s.muxes m').phase ∨ m' = m ∧ .effect e' ∈ pending := by
    intro m' e' he'
    rcases hphases m' with hsame | ⟨rfl, pending', hpending', hsub⟩
    · exact .inl hsame
    · rw [hpending'] at he'
      exact .inr ⟨rfl, hsub e' he'⟩
  have hback : ∀ {m' e'}, .effect e' ∈ (s'.muxes m').phase.pending →
      .effect e' ∈ (s.muxes m').phase.pending := by
    intro m' e' he'
    rcases hpending he' with ⟨-, hsame⟩ | ⟨rfl, hmem⟩
    · rwa [hsame] at he'
    · rw [hold]
      exact List.mem_cons_of_mem _ hmem
  constructor
  · intro m' t id r hr
    rw [hprocessors m'] at hr
    obtain ⟨a, ha, hholds⟩ := h.registry m' t id r hr
    exact ⟨a, hmono ha, hholds⟩
  · exact fun m' t a ha ↦ h.registered m' t a (hregistered ha)
  · intro later m' t a earlier heq
    rw [hprocessors m']
    rcases Transition.split_append (hhistory.symm.trans heq) with hnew | ⟨later', rfl, heq'⟩
    · rcases mem_performed hnew with ⟨_, -, heq⟩ | ⟨_, _, -, heq⟩ <;> cases heq
    · exact (h.present later' m' t a earlier heq').imp_left (List.mem_append_right _)
  · intro m' t a ha hlistener hsome
    rw [hprocessors m'] at hsome
    rcases h.called m' t a (hregistered ha) hlistener hsome with ⟨m'', cb, addr, hcalled⟩ |
      ⟨cb, addr, hcall⟩
    · exact .inl ⟨m'', cb, addr, hmono hcalled⟩
    · rcases hphases m' with ⟨-, hsame⟩ | ⟨rfl, -⟩
      · exact .inr ⟨cb, addr, hsame ▸ hcall⟩
      · left
        have hone := (h.calls _ _ _ _ hcall).1
        rw [hold] at hone
        cases hone
        refine ⟨m', cb, addr, ?_⟩
        rw [hhistory]
        exact List.mem_cons_self
  · intro m' cb endpoint addr hcall
    rcases hpending hcall with ⟨hm, hsame⟩ | ⟨rfl, hmem⟩
    · rw [hsame] at hcall ⊢
      obtain ⟨hone, ⟨t, a, ha, hid⟩, hnone⟩ := h.calls m' cb endpoint addr hcall
      refine ⟨hone, ⟨t, a, hmono ha, hid⟩, fun m'' e' he' ↦ ?_⟩
      rw [hhistory] at he'
      rcases List.mem_append.1 he' with he' | he'
      · rcases mem_performed he' with ⟨event, rfl, heq⟩ | ⟨_, _, -, heq⟩
        · cases heq
          -- an event of this remote would be performed by this thread
          obtain ⟨t', a', ha', hid', -⟩ := h.emits m e' (hold ▸ List.mem_cons_self)
          rintro heq
          refine hm ?_
          rw [(h.registered m' t a ha).1, (h.registered m t' a' ha').1, hid, hid', heq]
        · cases heq
      · exact hnone m'' e' he'
    · have hcall' : connectCall cb endpoint addr ∈ (s.muxes m').phase.pending := by
        rw [hold]
        exact List.mem_cons_of_mem _ hmem
      have hone := (h.calls m' cb endpoint addr hcall').1
      rw [hold] at hone
      cases hone
      cases hmem
  · intro m' e' he'
    obtain ⟨t, a, ha, hid, hconnect⟩ := h.emits m' e' (hback he')
    refine ⟨t, a, hmono ha, hid, fun hlistener ↦ ?_⟩
    obtain ⟨m'', cb, addr, hcalled⟩ := hconnect hlistener
    exact ⟨m'', cb, addr, hmono hcalled⟩
  · intro m' p hp hlearned id htarget hremote
    rcases hs.mem_queue hp with hp | ⟨id', hpost, rfl, -⟩
    · obtain ⟨t, a, ha, hid⟩ := h.learned m' p hp hlearned id htarget hremote
      exact ⟨t, a, hmono ha, hid⟩
    · obtain ⟨-, a, harrival, -⟩ := hroutes.posted m id' p.command hpost
      cases (WakerCommand.target_of_arrival harrival).symm.trans htarget
  · intro m' l stream addr haccepted
    rw [hhistory] at haccepted
    rw [hcreated, hstreams]
    exact h.accepted m' l stream addr
      (mem_history_of_perform haccepted (fun _ ↦ by rintro ⟨⟩) fun _ _ ↦ by rintro ⟨⟩)
  · rw [hhistory]
    exact h.caused_perform hold

/-! ## Steps that make a call -/

/-- What a call of the thread `m` leaves, against the state before it: `x` is the thread after
the call and `new` what the history gains. -/
structure CallLeaves (transports : List Transport) (s : Node N) (m : Ctl N) (x : Mux N)
    (new : History N) : Prop where
  queue : ∀ p ∈ x.queue, p ∈ (s.muxes m).queue
  /-- Callbacks and events are not called yet. -/
  silent : ∀ m' cb reply, .called m' cb reply ∉ new
  quiet : ∀ m' e, .emitted m' e ∉ new
  registry : ∀ t id r, (x.processors t).remote id = some r →
    (∃ r', ((s.muxes m).processors t).remote id = some r' ∧ Driver.SameRemote r' r) ∨
      ∃ a, .registered m t a ∈ new ∧ a.id = id ∧ Holds r a
  keeps : ∀ t id, (((s.muxes m).processors t).remote id).isSome →
    .deregistered m t id ∈ new ∨ ((x.processors t).remote id).isSome
  registered : ∀ m' t a, .registered m' t a ∈ new → m' = m ∧ m = workerOf a.id ∧
    getProcessor transports a.id = .ok t ∧ ((x.processors t).remote a.id).isSome ∧
      (∀ m'' t' a', .registered m'' t' a' ∈ s.history → a'.id ≠ a.id) ∧
        (a.listener = none → ∃ cb addr, connectCall cb ⟨a.id, a.addr⟩ addr ∈ x.phase.pending)
  calls : ∀ cb endpoint addr, connectCall cb endpoint addr ∈ x.phase.pending →
    x.phase.pending = [connectCall cb endpoint addr] ∧
      ∃ t a, .registered m t a ∈ new ∧ a.id = endpoint.resourceId
  emits : ∀ e, .effect (.emit (.network e)) ∈ x.phase.pending →
    ∃ t, (((s.muxes m).processors t).remote e.endpoint.resourceId).isSome

/-- **A call keeps the invariant**, as long as what it leaves is in order. -/
theorem Owned.of_call {x : Mux N} {new : History N} (h : s.Owned transports)
    (hmuxes : s'.muxes = Function.update s.muxes m x) (hpending : (s.muxes m).phase.pending = [])
    (hleaves : CallLeaves transports s m x new) (hhistory : s'.history = new ++ s.history)
    (haccepted : ∀ m l stream addr, .accepted m l stream addr ∈ s'.history →
      stream.name < s'.streams ∧
        ∀ a ∈ s'.history.created, a.stream = stream → a.listener = some l ∧ a.addr = addr)
    (hcaused : Transition.Justified (Caused N) s'.history) : s'.Owned transports := by
  have hmono : ∀ {entry}, entry ∈ s.history → entry ∈ s'.history := by
    intro entry hentry
    rw [hhistory]
    exact List.mem_append_right _ hentry
  have hnew : ∀ {entry}, entry ∈ new → entry ∈ s'.history := by
    intro entry hentry
    rw [hhistory]
    exact List.mem_append_left _ hentry
  have hconnect : ∀ {a}, s.history.connectCalled a → s'.history.connectCalled a :=
    fun ⟨m, cb, addr, hcalled⟩ ↦ ⟨m, cb, addr, hmono hcalled⟩
  -- a remote that is there while nothing is pending has been named, if it is connected
  have hnamed : ∀ {t a}, .registered m t a ∈ s.history → a.listener = none →
      (((s.muxes m).processors t).remote a.id).isSome → s.history.connectCalled a := by
    intro t a ha hlistener hsome
    rcases h.called m t a ha hlistener hsome with hcalled | ⟨cb, addr, hcall⟩
    · exact hcalled
    · rw [hpending] at hcall
      cases hcall
  have hcases := muxes_update_cases hmuxes
  constructor
  · intro m' t id r hr
    rcases hcases m' with hsame | ⟨rfl, hx⟩
    · rw [hsame] at hr
      obtain ⟨a, ha, hholds⟩ := h.registry m' t id r hr
      exact ⟨a, hmono ha, hholds⟩
    · rw [hx] at hr
      rcases hleaves.registry t id r hr with ⟨r', hr', hremote⟩ | ⟨a, ha, hholds⟩
      · obtain ⟨a, ha, hid, hholds⟩ := h.registry m' t id r' hr'
        exact ⟨a, hmono ha, hid, hholds.of_same hremote⟩
      · exact ⟨a, hnew ha, hholds⟩
  · intro m' t a ha
    rw [hhistory] at ha
    rcases List.mem_append.1 ha with ha | ha
    · obtain ⟨rfl, hm, hget, -⟩ := hleaves.registered m' t a ha
      exact ⟨hm, hget⟩
    · exact h.registered m' t a ha
  · intro later m' t a earlier heq
    rcases Transition.split_append (hhistory.symm.trans heq) with ha | ⟨later', rfl, heq'⟩
    · obtain ⟨rfl, -, -, hsome, -⟩ := hleaves.registered m' t a ha
      right
      rcases hcases m' with hsame | ⟨-, hx⟩
      · rw [hmuxes, Function.update_self]
        exact hsome
      · rw [hx]
        exact hsome
    · rcases h.present later' m' t a earlier heq' with hgone | hsome
      · exact .inl (List.mem_append_right _ hgone)
      · rcases hcases m' with hsame | ⟨rfl, hx⟩
        · rw [hsame]
          exact .inr hsome
        · rw [hx]
          exact (hleaves.keeps t a.id hsome).imp_left (List.mem_append_left _)
  · intro m' t a ha hlistener hsome
    rw [hhistory] at ha
    rcases List.mem_append.1 ha with ha | ha
    · obtain ⟨rfl, -, -, -, -, hcall⟩ := hleaves.registered m' t a ha
      right
      rw [hmuxes, Function.update_self]
      exact hcall hlistener
    · rcases hcases m' with hsame | ⟨rfl, hx⟩
      · rw [hsame] at hsome ⊢
        exact (h.called m' t a ha hlistener hsome).imp_left hconnect
      · rw [hx] at hsome
        obtain ⟨r, hr⟩ := Option.isSome_iff_exists.1 hsome
        rcases hleaves.registry t a.id r hr with ⟨r', hr', -⟩ | ⟨a', ha', hid, -⟩
        · exact .inl (hconnect (hnamed ha hlistener (Option.isSome_of_eq_some hr')))
        · obtain ⟨-, -, -, -, hfresh, -⟩ := hleaves.registered m' t a' ha'
          exact absurd hid.symm (hfresh m' t a ha)
  · intro m' cb endpoint addr hcall
    have hemitted : ∀ {m'' e}, .emitted m'' e ∈ s'.history → .emitted m'' e ∈ s.history := by
      intro m'' e he
      rw [hhistory] at he
      exact (List.mem_append.1 he).resolve_left (hleaves.quiet m'' e)
    rcases hcases m' with hsame | ⟨rfl, hx⟩
    · rw [hsame] at hcall ⊢
      obtain ⟨hone, ⟨t, a, ha, hid⟩, hnone⟩ := h.calls m' cb endpoint addr hcall
      exact ⟨hone, ⟨t, a, hmono ha, hid⟩, fun m'' e he ↦ hnone m'' e (hemitted he)⟩
    · rw [hx] at hcall ⊢
      obtain ⟨hone, t, a, ha, hid⟩ := hleaves.calls cb endpoint addr hcall
      refine ⟨hone, ⟨t, a, hnew ha, hid⟩, fun m'' e he heq ↦ ?_⟩
      obtain ⟨-, -, -, -, hfresh, -⟩ := hleaves.registered m' t a ha
      obtain ⟨later, earlier, hsplit, m₃, t', a', ha', hid', -⟩ := h.caused.of_mem (hemitted he)
      refine hfresh m₃ t' a' ?_ (hid'.trans (heq.trans hid.symm))
      rw [hsplit]
      exact List.mem_append_right _ (List.mem_cons_of_mem _ ha')
  · intro m' e he
    rcases hcases m' with hsame | ⟨rfl, hx⟩
    · rw [hsame] at he
      obtain ⟨t, a, ha, hid, hcalled⟩ := h.emits m' e he
      exact ⟨t, a, hmono ha, hid, fun hlistener ↦ hconnect (hcalled hlistener)⟩
    · rw [hx] at he
      obtain ⟨t, hsome⟩ := hleaves.emits e he
      obtain ⟨r, hr⟩ := Option.isSome_iff_exists.1 hsome
      obtain ⟨a, ha, hid, -⟩ := h.registry m' t _ r hr
      refine ⟨t, a, hmono ha, hid, fun hlistener ↦ hconnect (hnamed ha hlistener ?_)⟩
      rw [hid]
      exact hsome
  · intro m' p hp hlearned id htarget hremote
    have hp' : p ∈ (s.muxes m').queue := mem_queue_update hp hmuxes hleaves.queue
    obtain ⟨t, a, ha, hid⟩ := h.learned m' p hp' hlearned id htarget hremote
    exact ⟨t, a, hmono ha, hid⟩
  · exact haccepted
  · exact hcaused

/-! ## Poll events -/

omit [NeZero N] in
/-- A remote that was there is there, or its departure is recorded. -/
theorem departures_complete {ps ps' : Processors} {id id' : ResourceId} {t : Transport}
    {done : Action Processors} (hres : done.result = .ok ps')
    (hothers : ¬ (id' = id ∧ getProcessor transports id = .ok t) →
      ((ps' t).remote id').isSome = ((ps t).remote id').isSome)
    (hsome : ((ps t).remote id').isSome) :
    .deregistered m t id' ∈ departures transports m ps done id ∨ ((ps' t).remote id').isSome := by
  by_cases hid : id' = id ∧ getProcessor transports id = .ok t
  · obtain ⟨rfl, hget⟩ := hid
    cases hafter : (ps' t).remote id' with
    | some r => exact .inr rfl
    | none => exact .inl (mem_departures.2 ⟨t, ps', hget, hres, hsome, hafter, rfl⟩)
  · right
    rw [hothers hid]
    exact hsome

theorem callLeaves_remote {id : ResourceId} {e : PollEvent} {p : Action Processors}
    (hevent : RemoteEvent transports (s.muxes m).processors a id e p) (tasks : List Task) :
    CallLeaves transports s m ((s.muxes m).proceed p tasks)
      (departures transports m (s.muxes m).processors p id) := by
  have hpending : ∀ {e'}, .effect e' ∈ ((s.muxes m).proceed p tasks).phase.pending →
      ∃ event, e' = .emit (.network event) ∧ event.endpoint.resourceId = id ∧ p.effects ≠ [] := by
    intro e' he'
    rw [Mux.pending_proceed] at he'
    obtain ⟨e', hmem, heq⟩ := List.mem_map.1 he'
    cases heq
    obtain ⟨event, rfl, hid⟩ := hevent.spec.effects e' hmem
    exact ⟨event, rfl, hid, List.ne_nil_of_mem hmem⟩
  constructor
  · intro p' hp'
    rwa [Mux.queue_proceed] at hp'
  · intro m' cb reply hmem
    obtain ⟨t, ps', -, -, -, -, heq⟩ := mem_departures.1 hmem
    cases heq
  · intro m' e' hmem
    obtain ⟨t, ps', -, -, -, -, heq⟩ := mem_departures.1 hmem
    cases heq
  · intro t id' r hr
    left
    rcases (s.muxes m).processors_proceed p tasks with hres | ⟨-, hsame⟩
    · have hevolves := (hevent.spec.returns _ hres).evolves t
      by_cases hid : id' = id
      · subst hid
        exact hevolves.same r hr
      · rw [hevolves.others id' hid] at hr
        exact ⟨r, hr, .refl r⟩
    · rw [hsame] at hr
      exact ⟨r, hr, .refl r⟩
  · intro t id' hsome
    rcases (s.muxes m).processors_proceed p tasks with hres | ⟨-, hsame⟩
    · have hevolve := hevent.spec.returns _ hres
      refine departures_complete hres (fun hnot ↦ ?_) hsome
      by_cases hid : id' = id
      · rw [hevolve.eq_of_ne fun hget ↦ hnot ⟨hid, hget⟩]
      · rw [(hevolve.evolves t).others id' hid]
    · rw [hsame]
      exact .inr hsome
  · intro m' t a' hmem
    obtain ⟨t, ps', -, -, -, -, heq⟩ := mem_departures.1 hmem
    cases heq
  · intro cb endpoint addr hcall
    obtain ⟨event, heq, -⟩ := hpending hcall
    cases heq
  · intro e' he'
    obtain ⟨event, heq, hid, hne⟩ := hpending he'
    cases heq
    cases hregistered : isRegistered transports (s.muxes m).processors id with
    | false => exact absurd (hevent.effects_of_not_registered hregistered) hne
    | true =>
        rw [isRegistered] at hregistered
        cases hget : getProcessor transports id with
        | error x =>
            rw [hget] at hregistered
            cases hregistered
        | ok t =>
            rw [hget] at hregistered
            exact ⟨t, hid ▸ hregistered⟩

/-- **A poll event of a remote.** -/
theorem Owned.remote {id : ResourceId} {e : PollEvent} {p : Action Processors} {tasks : List Task}
    (h : s.Owned transports) (hpending : (s.muxes m).phase.pending = [])
    (hevent : RemoteEvent transports (s.muxes m).processors a id e p) :
    (s.processRemote transports m id p tasks).Owned transports := by
  refine h.of_call (muxes_processRemote ..) hpending (callLeaves_remote hevent tasks) rfl ?_ ?_
  · intro m' l stream addr hmem
    have hcreated :
        (s.processRemote transports m id p tasks).history.created = s.history.created := by
      refine (History.created_append _ _).trans ?_
      rw [created_departures, List.nil_append]
      rfl
    rw [hcreated]
    rcases List.mem_append.1 hmem with hmem | hmem
    · obtain ⟨t, ps', -, -, -, -, heq⟩ := mem_departures.1 hmem
      cases heq
    · exact h.accepted m' l stream addr hmem
  · refine h.caused.append fun entry hentry l' ↦ ?_
    obtain ⟨t, ps', -, -, -, -, rfl⟩ := mem_departures.1 hentry
    trivial

/-! ## Commands -/

omit [NeZero N] in
/-- Of what a command records when it is taken the user is told nothing. -/
theorem untold_postEntries {ps : Processors} {p : Post} {done : Action Processors} {entry : Entry N}
    (h : entry ∈ postEntries transports m ps p done) :
    (∀ m' cb reply, entry ≠ .called m' cb reply) ∧ ∀ m' e, entry ≠ .emitted m' e := by
  rcases mem_postEntries.1 h with ⟨id, -, he⟩ | ⟨a, -, he⟩ | ⟨a, -, rfl⟩ | rfl
  · obtain ⟨t, ps', -, -, -, -, rfl⟩ := mem_departures.1 he
    exact ⟨fun _ _ _ ↦ by rintro ⟨⟩, fun _ _ ↦ by rintro ⟨⟩⟩
  · obtain ⟨t, ps', -, -, rfl⟩ := mem_registrations.1 he
    exact ⟨fun _ _ _ ↦ by rintro ⟨⟩, fun _ _ ↦ by rintro ⟨⟩⟩
  · exact ⟨fun _ _ _ ↦ by rintro ⟨⟩, fun _ _ ↦ by rintro ⟨⟩⟩
  · exact ⟨fun _ _ _ ↦ by rintro ⟨⟩, fun _ _ ↦ by rintro ⟨⟩⟩

theorem callLeaves_post {p : Post} {queue : List Post} {env : CommandEnv} {x : Mux N}
    {done : Action Processors} (hroutes : s.Routes) (htokens : s.Tokens) (tasks : List Task)
    (hqueue : (s.muxes m).queue = p :: queue) (hx : x.queue = queue)
    (hprocessors : x.processors = (s.muxes m).processors)
    (hdone : processCommand transports (s.muxes m).processors p.command env = done) :
    CallLeaves transports s m (x.proceed done tasks)
      (postEntries transports m (s.muxes m).processors p done) := by
  have hspec := processCommand_spec transports (s.muxes m).processors p.command env
  rw [hdone] at hspec
  have hmem : p ∈ (s.muxes m).queue := by
    rw [hqueue]
    exact List.mem_cons_self
  have hpending : ∀ {e}, .effect e ∈ (x.proceed done tasks).phase.pending → e ∈ done.effects := by
    intro e he
    rw [Mux.pending_proceed] at he
    obtain ⟨e', he', heq⟩ := List.mem_map.1 he
    cases heq
    exact he'
  -- the drivers after the command
  have hafter : CommandDone transports (s.muxes m).processors p.command
        (x.proceed done tasks).processors ∧ done.result = .ok (x.proceed done tasks).processors ∨
      (∃ y, done.result = .error y) ∧
        (x.proceed done tasks).processors = (s.muxes m).processors := by
    rcases x.processors_proceed done tasks with hres | ⟨herr, hsame⟩
    · exact .inl ⟨hspec.returns _ hres, hres⟩
    · exact .inr ⟨herr, hsame.trans hprocessors⟩
  have hregistered : ∀ {a t}, p.command.arrival = some a → getProcessor transports a.id = .ok t →
      (∃ ps', done.result = .ok ps') →
      .registered m t a ∈ postEntries transports m (s.muxes m).processors p done := by
    rintro a t harrival hget ⟨ps', hres⟩
    exact mem_postEntries.2
      (.inr (.inl ⟨a, harrival, mem_registrations.2 ⟨t, ps', hget, hres, rfl⟩⟩))
  constructor
  · intro p' hp'
    rw [Mux.queue_proceed, hx] at hp'
    rw [hqueue]
    exact List.mem_cons_of_mem _ hp'
  · intro m' cb reply hentry
    exact (untold_postEntries hentry).1 m' cb reply rfl
  · intro m' e hentry
    exact (untold_postEntries hentry).2 m' e rfl
  · intro t id r hr
    rcases hafter with ⟨hcommand, hres⟩ | ⟨-, hsame⟩
    · rcases hcommand.remote_cases hr with hr | ⟨a, harrival, hget, hid, hholds⟩
      · exact .inl ⟨r, hr, .refl r⟩
      · exact .inr ⟨a, hregistered harrival hget ⟨_, hres⟩, hid, hholds⟩
    · rw [hsame] at hr
      exact .inl ⟨r, hr, .refl r⟩
  · intro t id hsome
    rcases hafter with ⟨hcommand, hres⟩ | ⟨-, hsame⟩
    · rcases hcommand.isSome_or_close hsome with hafter | ⟨hclose, hget⟩
      · exact .inr hafter
      · cases hgone : ((x.proceed done tasks).processors t).remote id with
        | some r => exact .inr rfl
        | none =>
            left
            refine mem_postEntries.2
              (.inl ⟨id, ?_, mem_departures.2 ⟨t, _, hget, hres, hsome, hgone, rfl⟩⟩)
            rw [hclose]
            rfl
    · rw [hsame]
      exact .inr hsome
  · intro m' t a hentry
    rcases mem_postEntries.1 hentry with ⟨id, -, he⟩ | ⟨a', harrival, he⟩ | ⟨a', -, heq⟩ | heq
    · obtain ⟨t, ps', -, -, -, -, heq⟩ := mem_departures.1 he
      cases heq
    · obtain ⟨t', ps', hget, hres, heq⟩ := mem_registrations.1 he
      cases heq
      rcases hafter with ⟨hcommand, hok⟩ | ⟨⟨y, herr⟩, -⟩
      · obtain ⟨hm, -⟩ := (hroutes.queued m p hmem).arrival a harrival
        obtain ⟨t'', hget', hsome⟩ := hcommand.isSome_of_arrival harrival
        cases hget.symm.trans hget'
        refine ⟨rfl, hm, hget, hsome, htokens.not_registered hmem harrival,
          fun hlistener ↦ ?_⟩
        obtain ⟨cb, addr, heffects⟩ := effects_of_registers harrival hlistener
          (congrArg Proc.result hdone |>.trans hok)
        refine ⟨cb, addr, ?_⟩
        rw [Mux.pending_proceed, ← hdone, heffects]
        exact List.mem_cons_self
      · cases hres.symm.trans herr
    · cases heq
    · cases heq
  · intro cb endpoint addr hcall
    have hcall' := hpending hcall
    rw [← hdone] at hcall'
    obtain ⟨a, ps', harrival, -, hid, -, hprocess⟩ := mem_effects_call_connect hcall'
    rw [hdone] at hprocess
    refine ⟨?_, ?_⟩
    · rw [Mux.pending_proceed, hprocess]
      rfl
    · have hres : done.result = .ok ps' := congrArg Proc.result hprocess
      obtain ⟨t, hget, -⟩ := (hspec.returns ps' hres).isSome_of_arrival harrival
      exact ⟨t, a, hregistered harrival hget ⟨ps', hres⟩, hid⟩
  · intro e he
    cases hspec.effects _ (hpending he)

/-- A command is justified by the registration of what it is about. -/
theorem Owned.dequeued {p : Post} (h : s.Owned transports)
    (hp : p ∈ (s.muxes m).queue) (l : History N) :
    Caused N (.dequeued m p (p.command.target.any (isRegistered transports (s.muxes m).processors)))
      (l ++ s.history) := by
  intro hlearned id htarget hremote
  obtain ⟨t, a, ha, rfl⟩ := h.learned m p hp hlearned id htarget hremote
  obtain ⟨hm, hget⟩ := h.registered m t a ha
  refine ⟨hm, ?_⟩
  obtain ⟨later, earlier, heq⟩ := List.append_of_mem ha
  refine ⟨l ++ later, t, a, earlier, by rw [heq, List.append_assoc], rfl, ?_⟩
  rcases h.present later m t a earlier heq with hgone | hsome
  · exact .inr (List.mem_append_right _ hgone)
  · left
    rw [htarget]
    change isRegistered transports (s.muxes m).processors a.id = true
    rw [isRegistered, hget]
    exact hsome

/-- **A command is taken from the queue.** -/
theorem Owned.post {p : Post} {queue : List Post} {tasks : List Task} {env : CommandEnv}
    (h : s.Owned transports) (hroutes : s.Routes) (htokens : s.Tokens)
    (hpending : (s.muxes m).phase.pending = []) (hqueue : (s.muxes m).queue = p :: queue) :
    (s.processPost transports m { s.muxes m with queue } p tasks env).Owned transports := by
  have hmem : p ∈ (s.muxes m).queue := by
    rw [hqueue]
    exact List.mem_cons_self
  refine h.of_call (muxes_processPost ..) hpending
    (callLeaves_post hroutes htokens tasks hqueue rfl rfl rfl) rfl ?_ ?_
  · intro m' l stream addr hentry
    have hcreated :
        (s.processPost transports m { s.muxes m with queue } p tasks env).history.created =
        arrivals (processCommand transports (s.muxes m).processors p.command
          (env.withStream ⟨s.streams⟩)).effects ++ s.history.created :=
      (History.created_append _ _).trans (congrArg (· ++ _) created_postEntries)
    have hold : .accepted m' l stream addr ∈ s.history := by
      refine (List.mem_append.1 hentry).resolve_left fun hentry ↦ ?_
      rcases mem_postEntries.1 hentry with ⟨id, -, he⟩ | ⟨a, -, he⟩ | ⟨a, -, heq⟩ | heq
      · obtain ⟨t, ps', -, -, -, -, heq⟩ := mem_departures.1 he
        cases heq
      · obtain ⟨t, ps', -, -, heq⟩ := mem_registrations.1 he
        cases heq
      · cases heq
      · cases heq
    obtain ⟨hlt, haccepted⟩ := h.accepted m' l stream addr hold
    refine ⟨hlt.trans (Nat.lt_succ_self _), fun a ha hstream ↦ ?_⟩
    rw [hcreated] at ha
    rcases List.mem_append.1 ha with ha | ha
    · -- a new stream has another name
      rcases arrivals_processCommand transports (s.muxes m).processors p.command
        (env.withStream ⟨s.streams⟩) with hnone | ⟨_, _, _, _, a', _, hone, _, hstream', -⟩
      · rw [hnone] at ha
        cases ha
      · rw [hone] at ha
        obtain rfl := List.mem_singleton.1 ha
        rw [← hstream, hstream'] at hlt
        exact absurd hlt (Nat.lt_irrefl _)
    · exact haccepted a ha hstream
  · refine h.caused.append fun entry hentry l ↦ ?_
    rcases mem_postEntries.1 hentry with ⟨id, -, he⟩ | ⟨a, -, he⟩ | ⟨a, -, rfl⟩ | rfl
    · obtain ⟨t, ps', -, -, -, -, rfl⟩ := mem_departures.1 he
      trivial
    · obtain ⟨t, ps', -, -, rfl⟩ := mem_registrations.1 he
      trivial
    · trivial
    · exact h.dequeued hmem l

/-! ## Accepting -/

omit [NeZero N] in
/-- The arrivals of a turn of the accept loop. -/
theorem arrivals_acceptTurn {t : Transport} {l : t.LocalResource} {id : ResourceId}
    {env : AcceptEnv}
    {a : Arrival} (ha : a ∈ arrivals (Driver.acceptTurn l id env).effects) :
    env.accept = .ok a.stream a.addr ∧ a.listener = some id := by
  obtain ⟨payload, hpayload⟩ := Driver.localAcceptTurn_eq t l
  have hturn := Driver.acceptTurn_spec hpayload id env
  generalize Driver.acceptTurn l id env = turn at hturn ha
  cases hturn with
  | sent haccept hlocal hremote =>
      obtain rfl := List.mem_singleton.1 ha
      exact ⟨haccept, rfl⟩
  | noAddr haccept hlocal => cases ha
  | noId haccept hlocal hremote => cases ha
  | nothing haccept => cases ha

theorem callLeaves_accept {t : Transport} {l : t.LocalResource} {id : ResourceId}
    {tasks : List Task} {env : AcceptEnv} {new : History N}
    (hnew : ∀ e ∈ new, (∃ a, e = .created m a) ∨ ∃ stream addr, e = .accepted m id stream addr) :
    CallLeaves transports s m { s.muxes m with
      phase := acceptPhase (Driver.acceptTurn l id env) t l id tasks } new := by
  have hpending : ∀ {e}, .effect e ∈ (acceptPhase (Driver.acceptTurn l id env) t l id tasks :
      Phase N).pending → ∃ id c, e = .post id c := by
    intro e he
    rw [pending_acceptPhase] at he
    obtain ⟨e', he', heq⟩ := List.mem_map.1 he
    cases heq
    obtain ⟨payload, hpayload⟩ := Driver.localAcceptTurn_eq t l
    have hturn := Driver.acceptTurn_spec hpayload id env
    generalize Driver.acceptTurn l id env = turn at hturn he'
    cases hturn with
    | sent haccept hlocal hremote => exact ⟨_, _, List.mem_singleton.1 he'⟩
    | noAddr haccept hlocal => cases he'
    | noId haccept hlocal hremote => cases he'
    | nothing haccept => cases he'
  constructor
  · exact fun _ hp ↦ hp
  · intro m' cb reply hmem
    rcases hnew _ hmem with ⟨a, heq⟩ | ⟨stream, addr, heq⟩ <;> cases heq
  · intro m' e hmem
    rcases hnew _ hmem with ⟨a, heq⟩ | ⟨stream, addr, heq⟩ <;> cases heq
  · exact fun t id r hr ↦ .inl ⟨r, hr, .refl r⟩
  · exact fun t id hsome ↦ .inr hsome
  · intro m' t a hmem
    rcases hnew _ hmem with ⟨a, heq⟩ | ⟨stream, addr, heq⟩ <;> cases heq
  · intro cb endpoint addr hcall
    obtain ⟨id, c, heq⟩ := hpending hcall
    cases heq
  · intro e he
    obtain ⟨id, c, heq⟩ := hpending he
    cases heq

/-- **A turn of the accept loop.** -/
theorem Owned.accept {t : Transport} {l : t.LocalResource} {id : ResourceId} {tasks : List Task}
    {env : AcceptEnv} (h : s.Owned transports) (htokens : s.Tokens)
    (hpending : (s.muxes m).phase.pending = []) :
    (s.acceptFrom m t l id tasks env).Owned transports := by
  have hnew : ∀ e ∈ (arrivals (Driver.acceptTurn l id (s.acceptEnv id env)).effects).map
        (Entry.created m) ++ (acceptedOf (s.acceptEnv id env).accept).toList.map
          (fun a ↦ Entry.accepted m id a.1 a.2),
      (∃ a, e = .created m a) ∨ ∃ stream addr, e = .accepted m id stream addr := by
    intro e he
    rcases List.mem_append.1 he with he | he
    · obtain ⟨a, -, rfl⟩ := List.mem_map.1 he
      exact .inl ⟨a, rfl⟩
    · obtain ⟨a, -, rfl⟩ := List.mem_map.1 he
      exact .inr ⟨a.1, a.2, rfl⟩
  refine h.of_call (muxes_acceptFrom ..) hpending (callLeaves_accept hnew) rfl ?_ ?_
  · intro m' l' stream addr hentry
    rw [created_acceptFrom]
    rcases List.mem_append.1 hentry with hentry | hentry
    · rcases List.mem_append.1 hentry with hentry | hentry
      · obtain ⟨a, -, heq⟩ := List.mem_map.1 hentry
        cases heq
      · obtain ⟨⟨stream', addr'⟩, hmem, heq⟩ := List.mem_map.1 hentry
        cases heq
        have haccept : (s.acceptEnv id env).accept = .ok stream' addr' := by
          generalize (s.acceptEnv id env).accept = accept at hmem
          cases accept with
          | err kind => cases hmem
          | ok stream'' addr'' =>
              cases List.mem_singleton.1 hmem
              rfl
        have hname := stream_acceptEnv haccept
        refine ⟨hname ▸ Nat.lt_succ_self _, fun a ha hstream ↦ ?_⟩
        rcases List.mem_append.1 ha with ha | ha
        · obtain ⟨haccept', hlistener⟩ := arrivals_acceptTurn ha
          cases haccept.symm.trans haccept'
          exact ⟨hlistener, rfl⟩
        · have hlt := htokens.named a ha
          rw [hstream, hname] at hlt
          exact absurd hlt (Nat.lt_irrefl _)
    · obtain ⟨hlt, haccepted⟩ := h.accepted m' l' stream addr hentry
      refine ⟨hlt.trans (Nat.lt_succ_self _), fun a ha hstream ↦ ?_⟩
      rcases List.mem_append.1 ha with ha | ha
      · have hname := stream_acceptEnv (arrivals_acceptTurn ha).1
        rw [← hstream, hname] at hlt
        exact absurd hlt (Nat.lt_irrefl _)
      · exact haccepted a ha hstream
  · refine h.caused.append fun e he l ↦ ?_
    rcases hnew e he with ⟨a, rfl⟩ | ⟨stream, addr, rfl⟩
    · trivial
    · trivial

/-! ## Every step keeps the invariant -/

/-- The stop of the node changes nothing but the flag. -/
theorem Owned.stop (h : s.Owned transports) :
    Owned transports { s.record [.stopped] with running := false } := by
  have hmem : ∀ {entry : Entry N}, entry ∈ .stopped :: s.history → entry ≠ .stopped →
      entry ∈ s.history := fun hentry hne ↦ (List.mem_cons.1 hentry).resolve_left hne
  have hmono : ∀ {entry : Entry N}, entry ∈ s.history → entry ∈ .stopped :: s.history :=
    List.mem_cons_of_mem _
  constructor
  · intro m t id r hr
    obtain ⟨a, ha, hholds⟩ := h.registry m t id r hr
    exact ⟨a, hmono ha, hholds⟩
  · exact fun m t a ha ↦ h.registered m t a (hmem ha nofun)
  · intro later m t a earlier heq
    rcases later with _ | ⟨entry, later⟩
    · cases heq
    · exact (h.present later m t a earlier (List.cons_eq_cons.1 heq).2).imp_left
        (List.mem_cons_of_mem _)
  · intro m t a ha hlistener hsome
    rcases h.called m t a (hmem ha nofun) hlistener hsome with ⟨m', cb, addr, hcalled⟩ | hcall
    · exact .inl ⟨m', cb, addr, hmono hcalled⟩
    · exact .inr hcall
  · intro m cb endpoint addr hcall
    obtain ⟨hone, ⟨t, a, ha, hid⟩, hnone⟩ := h.calls m cb endpoint addr hcall
    exact ⟨hone, ⟨t, a, hmono ha, hid⟩, fun m' e he ↦ hnone m' e (hmem he nofun)⟩
  · intro m e he
    obtain ⟨t, a, ha, hid, hconnect⟩ := h.emits m e he
    refine ⟨t, a, hmono ha, hid, fun hlistener ↦ ?_⟩
    obtain ⟨m', cb, addr, hcalled⟩ := hconnect hlistener
    exact ⟨m', cb, addr, hmono hcalled⟩
  · intro m p hp hlearned id htarget hremote
    obtain ⟨t, a, ha, hid⟩ := h.learned m p hp hlearned id htarget hremote
    exact ⟨t, a, hmono ha, hid⟩
  · exact fun m l stream addr haccepted ↦ h.accepted m l stream addr (hmem haccepted nofun)
  · exact ⟨trivial, h.caused⟩

theorem Owned.stepMux (h : s.Owned transports) (hroutes : s.Routes) (htokens : s.Tokens)
    (hs : MuxStep transports s m a s') : s'.Owned transports := by
  cases hs with
  | @control φ φ' hphase hc =>
      refine h.of_quiet rfl rfl (fun m' ↦ (drivers_setPhase φ' m').1) (fun m' ↦ .inl ?_)
        fun m' p hp ↦ .inl (mem_queue_update hp (muxes_setPhase φ') fun _ ↦ Phase.mem_of_mem_keeps)
      rcases muxes_update_cases (muxes_setPhase (s := s) (m := m) φ') m' with hsame | ⟨rfl, hx⟩
      · rw [hsame]
      · rw [hx, hphase, hc.pending_eq_nil.1]
        exact hc.pending_eq_nil.2
  | poll hphase hreports =>
      refine h.of_quiet rfl rfl (fun m' ↦ (drivers_update (muxes_polled ..) rfl rfl m').1)
        (fun m' ↦ .inl ?_) fun m' p hp ↦ .inl (mem_queue_update hp (muxes_polled ..) fun _ hp ↦ hp)
      rcases muxes_update_cases (muxes_polled s m a.batch) m' with hsame | ⟨rfl, hx⟩
      · rw [hsame]
      · rw [hx, hphase]
        rfl
  | effect hphase => exact h.perform hroutes a hphase
  | @wake m' pending tasks hphase =>
      refine h.of_quiet rfl rfl (fun m'' ↦ (drivers_wake m'').1.trans (drivers_setPhase _ m'').1)
        (fun m'' ↦ ?_) fun m'' p hp ↦ .inl ?_
      · rw [phase_wake]
        rcases muxes_update_cases (muxes_setPhase (s := s) (m := m) (.busy pending tasks)) m'' with
          hsame | ⟨rfl, hx⟩
        · rw [hsame]
          exact .inl rfl
        · rw [hx, hphase]
          exact .inr ⟨m', rfl⟩
      · exact mem_queue_update (mem_queue_update hp muxes_wake fun _ hp ↦ hp)
          (muxes_setPhase (.busy pending tasks)) fun _ hp ↦ hp
  | remote hphase hevent => exact h.remote (congrArg Phase.pending hphase) hevent
  | post hphase hqueue hcount => exact h.post hroutes htokens (congrArg Phase.pending hphase) hqueue
  | accept hphase => exact h.accept htokens (congrArg Phase.pending hphase)

/-- **Every step keeps the invariant**, if the user goes through `NodeHandler`. -/
theorem Owned.step {b : Step N} (h : s.Owned transports) (hroutes : s.Routes) (htokens : s.Tokens)
    (huses : s.UsesHandler b) (hs : s.step transports b = some s') : s'.Owned transports := by
  have hnone : ∀ {s' : Node N}, s'.history = s.history → s'.streams = s.streams →
      s'.muxes = s.muxes → s'.Owned transports := by
    intro s' hhistory hstreams hmuxes
    refine h.of_quiet hhistory hstreams (fun _ ↦ by rw [hmuxes])
      (fun _ ↦ by rw [hmuxes]; exact .inl rfl)
      fun _ p hp ↦ .inl (hmuxes ▸ hp)
  cases b with
  | generate type t =>
      rw [Node.step] at hs
      split at hs
      · cases hs
        cases type <;> exact hnone rfl rfl rfl
      · cases hs
  | enqueue m c =>
      cases hs
      refine h.of_quiet rfl rfl (fun m' ↦ (drivers_enqueue c m').1)
        (fun m' ↦ .inl (congrArg Phase.pending (phase_enqueue c m'))) fun m' p hp ↦ ?_
      rcases mem_queue_enqueue hp with hp | ⟨rfl, rfl⟩
      · exact .inl hp
      · exact .inr ⟨rfl, (Posts.routed huses).target⟩
  | wake m =>
      rw [Node.step] at hs
      split at hs
      · cases hs
        exact h.of_quiet rfl rfl (fun m' ↦ (drivers_wake m').1)
          (fun m' ↦ .inl (congrArg Phase.pending (phase_wake m')))
          fun m' p hp ↦ .inl (mem_queue_update hp muxes_wake fun _ hp ↦ hp)
      · cases hs
  | mux m a => exact h.stepMux hroutes htokens (stepMux_cases hs)
  | stop =>
      cases hs
      exact h.stop

/-! ## Ownership -/

/-- **Who owns what, and what comes after what**, of a state and of all that has happened. -/
structure Ownership (transports : List Transport) (s : Node N) : Prop where
  /-- A remote is with the worker whose index is the raw id modulo the number of workers, under
  the driver of its adapter, and its stream is the one that was given this id. -/
  owner : ∀ m t id r, ((s.muxes m).processors t).remote id = some r →
    (∃ i : Fin N, m = .worker i ∧ (i : Nat) = id.raw % N) ∧ t ∈ transports ∧ id.adapterId = t.id ∧
      ∃ a ∈ s.history.created, a.id = id ∧ Remote.source r.resource = .ok a.stream
  /-- No stream is in two places. -/
  unique : ∀ m t id r m' t' id' r' stream, ((s.muxes m).processors t).remote id = some r →
    ((s.muxes m').processors t').remote id' = some r' → Remote.source r.resource = .ok stream →
    Remote.source r'.resource = .ok stream → m = m' ∧ t = t' ∧ id = id'
  /-- No two streams share an id, and no stream has two. -/
  ids : ∀ a ∈ s.history.created, ∀ a' ∈ s.history.created, a.id = a'.id ↔ a.stream = a'.stream
  /-- What is registered with an accepted stream. -/
  accepted : ∀ m m' t id r listener stream addr, .accepted m' listener stream addr ∈ s.history →
    ((s.muxes m).processors t).remote id = some r → Remote.source r.resource = .ok stream →
      r.properties.localId = some listener ∧ r.properties.peerAddr = addr
  /-- A command about a remote that had been named to its user. -/
  learned : ∀ later earlier m p found id,
    s.history = later ++ .dequeued m p found :: earlier → p.learned = true →
    p.command.target = some id → id.resourceType = .remote →
      (∃ i : Fin N, m = .worker i ∧ (i : Nat) = id.raw % N) ∧
        ∃ between t a before, earlier = between ++ .registered m t a :: before ∧
          a.id = id ∧ (found = true ∨ .deregistered m t id ∈ between)
  /-- A callback that is told of a connection, and an event of the same remote. -/
  callback : ∀ later earlier m cb endpoint addr,
    s.history = later ++ .called m cb (.connect (.ok (endpoint, addr))) :: earlier →
      ∀ m' e, .emitted m' (.network e) ∈ earlier → e.endpoint.resourceId ≠ endpoint.resourceId
  /-- An event, and the callback of the connection it is about. -/
  event : ∀ later earlier m e, s.history = later ++ .emitted m (.network e) :: earlier →
    ∃ m' t a, .registered m' t a ∈ earlier ∧ a.id = e.endpoint.resourceId ∧
      (a.listener = none → ∃ m'' cb addr,
        .called m'' cb (.connect (.ok (⟨a.id, a.addr⟩, addr))) ∈ earlier)

theorem Owned.toOwnership (h : s.Owned transports) (htokens : s.Tokens) :
    s.Ownership transports := by
  have hregistry : ∀ {m t id r}, ((s.muxes m).processors t).remote id = some r →
      ∃ a, .registered m t a ∈ s.history ∧ a ∈ s.history.created ∧ a.id = id ∧ Holds r a := by
    intro m t id r hr
    obtain ⟨a, ha, hid, hholds⟩ := h.registry m t id r hr
    exact ⟨a, ha, htokens.created_of_registered ha, hid, hholds⟩
  have hstreams : ∀ {a a'}, a ∈ s.history.created → a' ∈ s.history.created →
      a.stream = a'.stream → a = a' :=
    fun ha ha' heq ↦ List.inj_on_of_nodup_map htokens.streams ha ha' heq
  constructor
  · intro m t id r hr
    obtain ⟨a, ha, hcreated, rfl, hholds⟩ := hregistry hr
    obtain ⟨hm, hget⟩ := h.registered m t a ha
    obtain ⟨ht, hadapter⟩ := getProcessor_eq_ok.1 hget
    exact ⟨⟨_, hm, val_toWorkerIndex N a.id⟩, ht, hadapter, a, hcreated, rfl, hholds.source⟩
  · intro m t id r m' t' id' r' stream hr hr' hsource hsource'
    obtain ⟨a, ha, hcreated, rfl, hholds⟩ := hregistry hr
    obtain ⟨a', ha', hcreated', rfl, hholds'⟩ := hregistry hr'
    have heq : a.stream = a'.stream := by
      have hstream := hholds.source.symm.trans hsource
      have hstream' := hholds'.source.symm.trans hsource'
      cases hstream
      exact (Except.ok.inj hstream').symm
    obtain rfl := hstreams hcreated hcreated' heq
    obtain ⟨rfl, hget⟩ := h.registered m t a ha
    obtain ⟨rfl, hget'⟩ := h.registered m' t' a ha'
    exact ⟨rfl, Except.ok.inj (hget.symm.trans hget'), rfl⟩
  · intro a ha a' ha'
    constructor
    · intro hid
      rw [htokens.eq_of_id ha ha' hid]
    · intro hstream
      rw [hstreams ha ha' hstream]
  · intro m m' t id r listener stream addr haccepted hr hsource
    obtain ⟨a, -, hcreated, rfl, hholds⟩ := hregistry hr
    have hstream : a.stream = stream := Except.ok.inj (hholds.source.symm.trans hsource)
    obtain ⟨hlistener, haddr⟩ := (h.accepted m' listener stream addr haccepted).2 a hcreated hstream
    exact ⟨hholds.localId.trans hlistener, hholds.peerAddr.trans haddr⟩
  · intro later earlier m p found id heq hlearned htarget hremote
    have hcaused : Caused N (.dequeued m p found) earlier :=
      Transition.Justified.split (heq ▸ h.caused)
    obtain ⟨hm, hregistered⟩ := hcaused hlearned id htarget hremote
    exact ⟨⟨_, hm, val_toWorkerIndex N id⟩, hregistered⟩
  · intro later earlier m cb endpoint addr heq
    exact (Transition.Justified.split (heq ▸ h.caused)).2
  · intro later earlier m e heq
    obtain ⟨m', t, a, ha, hid, hcalled⟩ := Transition.Justified.split (heq ▸ h.caused)
    exact ⟨m', t, a, ha, hid, hcalled⟩

/-- **Ownership and causality of remotes.**  Whatever the master, the workers and the threads of
the user do, as long as the user goes through `NodeHandler`. -/
theorem ownership (transports : List Transport)
    (h : Transition.Reach (step transports) UsesHandler (new N) s) : s.Ownership transports := by
  have hinv : s.Routes ∧ s.Tokens ∧ s.Owned transports := by
    refine h.invariant (P := fun s : Node N ↦ s.Routes ∧ s.Tokens ∧ s.Owned transports)
      ⟨routes_new, tokens_new, owned_new transports⟩ ?_
    rintro s s' b ⟨hroutes, htokens, howned⟩ huses hs
    exact ⟨hroutes.step huses hs, htokens.step hroutes huses hs,
      howned.step hroutes htokens huses hs⟩
  exact hinv.2.2.toOwnership hinv.2.1

/-- The worker takes the registration from its queue, processes it and calls the callback. -/
def workerRegisters : List (Step 1) :=
  [.mux .master (.quiet []), .mux (.worker 0) (.quiet []), .mux (.worker 0) (.quiet [.waker]),
    .mux (.worker 0) (.quiet []), .mux (.worker 0) (.quiet []), .mux (.worker 0) (.quiet [])]

/-- The user of a node with two workers connects and then asks for the new remote, which is with
the second worker. -/
def secondWorkerAnswers : List (Step 2) :=
  .generate .remote .tcp :: .enqueue .master (firstConnect (.socket (.localhost 80))) ::
    (masterConnects ++ [.mux .master (.quiet []), .mux (.worker 1) (.quiet []),
      .mux (.worker 1) (.quiet [.waker]), .mux (.worker 1) (.quiet []),
      .mux (.worker 1) (.quiet []), .mux (.worker 1) (.quiet []),
      .enqueue (.worker 1) (.isReady ⟨⟨1⟩⟩ ⟨1⟩), .mux (.worker 1) (.quiet [])])

/-- What can be seen to go through `NodeHandler`. -/
def usesHandler (s : Node 2) : Step 2 → Bool
  | .enqueue m (.connect _ id _ _) => m = .master && id ∈ s.held && id.resourceType = .remote
  | .enqueue m (.isReady id _) => m = workerOf id
  | .enqueue _ _ => false
  | _ => true

theorem usesHandler_sound {s : Node 2} {b : Step 2} (h : usesHandler s b = true) :
    s.UsesHandler b := by
  cases b with
  | enqueue m c =>
      cases c with
      | connect config id raddr cb =>
          simp only [usesHandler, Bool.and_eq_true, decide_eq_true_eq] at h
          exact ⟨h.1.1, h.1.2, h.2⟩
      | isReady id cb => exact (of_decide_eq_true h : m = workerOf id)
      | _ => cases h
  | _ => trivial

/-- The second worker owns the remote, and finds it when it is asked. -/
theorem ownership_connected : ∃ s : Node 2,
    Transition.run (step [.tcp]) (new 2) secondWorkerAnswers = some s ∧
      (((s.muxes (.worker 1)).processors .tcp).remote ⟨⟨1⟩⟩).isSome ∧
        s.history.head? = some (.dequeued (.worker 1) ⟨.isReady ⟨⟨1⟩⟩ ⟨1⟩, true⟩ true) ∧
          s.Ownership [.tcp] := by
  obtain ⟨s, hrun, hchecked, hregistered, hhead⟩ : ∃ s : Node 2,
      Transition.run (step [.tcp]) (new 2) secondWorkerAnswers = some s ∧
        Transition.run (fun s b ↦ if usesHandler s b then step [.tcp] s b else none) (new 2)
          secondWorkerAnswers = some s ∧
          (((s.muxes (.worker 1)).processors .tcp).remote ⟨⟨1⟩⟩).isSome ∧
            s.history.head? = some (.dequeued (.worker 1) ⟨.isReady ⟨⟨1⟩⟩ ⟨1⟩, true⟩ true) :=
    ⟨_, rfl, rfl, rfl, rfl⟩
  refine ⟨s, hrun, hregistered, hhead, ownership [.tcp] ?_⟩
  exact .of_checked_run (fun _ _ ↦ usesHandler_sound) hchecked

end Node

end MessageIo
