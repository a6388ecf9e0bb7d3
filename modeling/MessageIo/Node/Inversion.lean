import MessageIo.Node.Machine

/-!
# What a step can do

`stepMux_cases` lists the steps of a thread once, with their guards and with the state
they lead to.  Most of them only move the thread on in its program; those are the
relation `Control` between phases.
-/

namespace MessageIo

namespace Phase

variable {N : Nat}

/-- The effects still to be performed. -/
def pending : Phase N → List (Pending N)
  | busy pending _ => pending
  | _ => []

/-- The tasks behind them. -/
def tasks : Phase N → List Task
  | busy _ tasks => tasks
  | _ => []

@[simp] theorem pending_busy (p : List (Pending N)) (ts : List Task) :
    (busy p ts).pending = p := rfl

@[simp] theorem tasks_busy (p : List (Pending N)) (ts : List Task) : (busy p ts).tasks = ts := rfl

@[simp] theorem keeps_test (queue : List Post) : (test : Phase N).keeps queue = queue := rfl

@[simp] theorem keeps_polling (queue : List Post) : (polling : Phase N).keeps queue = queue := rfl

@[simp] theorem keeps_busy (p : List (Pending N)) (ts : List Task) (queue : List Post) :
    (busy p ts).keeps queue = queue := rfl

/-- A thread that runs keeps all that waits. -/
theorem keeps_of_connected {φ : Phase N} (h : φ.disconnected = false) (queue : List Post) :
    φ.keeps queue = queue := by
  rw [keeps, h]
  rfl

/-- One that has ended keeps nothing. -/
theorem keeps_of_disconnected {φ : Phase N} (h : φ.disconnected = true) (queue : List Post) :
    φ.keeps queue = [] := by
  rw [keeps, h]
  rfl

theorem keeps_sublist (φ : Phase N) (queue : List Post) : (φ.keeps queue).Sublist queue := by
  cases h : φ.disconnected with
  | true =>
      rw [keeps_of_disconnected h]
      exact List.nil_sublist _
  | false => rw [keeps_of_connected h]

@[simp] theorem keeps_nil (φ : Phase N) : φ.keeps [] = [] := List.sublist_nil.1 (φ.keeps_sublist [])

theorem mem_of_mem_keeps {φ : Phase N} {queue : List Post} {p : Post} (h : p ∈ φ.keeps queue) :
    p ∈ queue :=
  (φ.keeps_sublist queue).subset h

end Phase

/-- The effects of a turn of the accept loop are pending behind it. -/
@[simp] theorem pending_acceptPhase {N : Nat} (turn : Action Bool) (t : Transport)
    (l : t.LocalResource) (id : ResourceId) (tasks : List Task) :
    (acceptPhase turn t l id tasks : Phase N).pending = turn.effects.map .effect := by
  rw [acceptPhase]
  cases turn.result <;> rfl

/-- The accept loop goes on, or halts; the thread does not end there. -/
@[simp] theorem keeps_acceptPhase {N : Nat} (turn : Action Bool) (t : Transport)
    (l : t.LocalResource) (id : ResourceId) (tasks : List Task) (queue : List Post) :
    (acceptPhase turn t l id tasks : Phase N).keeps queue = queue := by
  rw [acceptPhase]
  cases turn.result <;> rfl

namespace Mux

variable {N : Nat}

/-- The effects of a call are pending behind it, and nothing else is. -/
@[simp] theorem pending_proceed (x : Mux N) (p : Action Processors) (tasks : List Task) :
    (x.proceed p tasks).phase.pending = p.effects.map .effect := by
  rw [proceed]
  cases p.result <;> rfl

/-- A call that returns goes on to the tasks behind it; one that does not is a halt. -/
theorem tasks_proceed (x : Mux N) (p : Action Processors) (tasks : List Task) :
    ((∃ ps, p.result = .ok ps) ∧ (x.proceed p tasks).phase.tasks = tasks) ∨
      ∃ h, p.result = .error h ∧ (x.proceed p tasks).phase.tasks = [.halt h] := by
  rw [proceed]
  cases p.result with
  | ok ps => exact .inl ⟨⟨ps, rfl⟩, rfl⟩
  | error h => exact .inr ⟨h, rfl, rfl⟩

@[simp] theorem queue_proceed (x : Mux N) (p : Action Processors) (tasks : List Task) :
    (x.proceed p tasks).queue = x.queue := by
  rw [proceed]
  cases p.result <;> rfl

@[simp] theorem woken_proceed (x : Mux N) (p : Action Processors) (tasks : List Task) :
    (x.proceed p tasks).woken = x.woken := by
  rw [proceed]
  cases p.result <;> rfl

@[simp] theorem watched_proceed (x : Mux N) (p : Action Processors) (tasks : List Task) :
    (x.proceed p tasks).watched = x.watched := by
  rw [proceed]
  cases p.result <;> rfl

/-- A thread goes on with the drivers it has after a call that returns. -/
theorem processors_proceed (x : Mux N) (p : Action Processors) (tasks : List Task) :
    p.result = .ok (x.proceed p tasks).processors ∨
      (∃ h, p.result = .error h) ∧ (x.proceed p tasks).processors = x.processors := by
  rw [proceed]
  cases p.result with
  | ok ps => exact .inl rfl
  | error h => exact .inr ⟨⟨h, rfl⟩, rfl⟩

end Mux

/-! ## The entries of a call -/

section

variable {N : Nat} {transports : List Transport} {m : Ctl N} {ps : Processors} {id : ResourceId}

theorem mem_departures {done : Action Processors} {e : Entry N} :
    e ∈ departures transports m ps done id ↔ ∃ t ps', getProcessor transports id = .ok t ∧
      done.result = .ok ps' ∧ ((ps t).remote id).isSome ∧ (ps' t).remote id = none ∧
        e = .deregistered m t id := by
  rw [departures]
  split
  · rename_i t ps' hget hres
    rw [List.mem_ite_nil_right, Bool.and_eq_true, Option.isNone_iff_eq_none, List.mem_singleton,
      and_assoc]
    constructor
    · rintro ⟨hsome, hnone, rfl⟩
      exact ⟨t, ps', hget, hres, hsome, hnone, rfl⟩
    · rintro ⟨t', ps'', hget', hres', hsome, hnone, rfl⟩
      cases hget.symm.trans hget'
      cases hres.symm.trans hres'
      exact ⟨hsome, hnone, rfl⟩
  · rename_i hnot
    constructor
    · intro h
      cases h
    · rintro ⟨t, ps', hget, hres, -⟩
      exact absurd hres (hnot t ps' hget)

theorem mem_registrations {done : Action Processors} {a : Arrival} {e : Entry N} :
    e ∈ registrations transports m done a ↔ ∃ t ps', getProcessor transports a.id = .ok t ∧
      done.result = .ok ps' ∧ e = .registered m t a := by
  rw [registrations]
  split
  · rename_i t ps' hget hres
    rw [List.mem_singleton]
    constructor
    · rintro rfl
      exact ⟨t, ps', hget, hres, rfl⟩
    · rintro ⟨t', ps'', hget', hres', rfl⟩
      cases hget.symm.trans hget'
      rfl
  · rename_i hnot
    constructor
    · intro h
      cases h
    · rintro ⟨t, ps', hget, hres, -⟩
      exact absurd hres (hnot t ps' hget)

/-- What is recorded when a command has been processed. -/
theorem mem_postEntries {p : Post} {done : Action Processors} {e : Entry N} :
    e ∈ postEntries transports m ps p done ↔
      (∃ id, p.command.target = some id ∧ e ∈ departures transports m ps done id) ∨
        (∃ a, p.command.arrival = some a ∧ e ∈ registrations transports m done a) ∨
          (∃ a ∈ arrivals done.effects, .created m a = e) ∨
            e = .dequeued m p (p.command.target.any (isRegistered transports ps)) := by
  simp only [postEntries, List.mem_append, List.mem_flatMap, Option.mem_toList, List.mem_map,
    List.mem_singleton]

end

namespace Node

section

variable {N : Nat} {s : Node N} {m m' : Ctl N} {x : Mux N}

/-! ## Changes of one thread -/

@[simp] theorem muxes_setMux : (s.setMux m x).muxes = Function.update s.muxes m x := rfl

@[simp] theorem history_setMux : (s.setMux m x).history = s.history := rfl

@[simp] theorem posters_setMux : (s.setMux m x).posters = s.posters := rfl

@[simp] theorem running_setMux : (s.setMux m x).running = s.running := rfl

@[simp] theorem muxes_setPhase (φ : Phase N) :
    (s.setPhase m φ).muxes = Function.update s.muxes m
      { s.muxes m with queue := φ.keeps (s.muxes m).queue, phase := φ } := rfl

@[simp] theorem history_setPhase (φ : Phase N) : (s.setPhase m φ).history = s.history := rfl

@[simp] theorem posters_setPhase (φ : Phase N) : (s.setPhase m φ).posters = s.posters := rfl

@[simp] theorem running_setPhase (φ : Phase N) : (s.setPhase m φ).running = s.running := rfl

@[simp] theorem muxes_record (es : List (Entry N)) : (s.record es).muxes = s.muxes := rfl

@[simp] theorem posters_record (es : List (Entry N)) : (s.record es).posters = s.posters := rfl

@[simp] theorem running_record (es : List (Entry N)) : (s.record es).running = s.running := rfl

@[simp] theorem history_record (es : List (Entry N)) :
    (s.record es).history = es ++ s.history := rfl

@[simp] theorem history_wake : (s.wake m).history = s.history := rfl

@[simp] theorem history_enqueue (c : WakerCommand) : (s.enqueue m c).history = s.history := rfl

theorem muxes_enqueue (c : WakerCommand) : (s.enqueue m c).muxes = Function.update s.muxes m
    { s.muxes m with
      queue := (s.muxes m).phase.keeps
        ((s.muxes m).queue ++ [⟨c, c.target.any s.history.taught⟩]) } := rfl

theorem muxes_wake :
    (s.wake m).muxes = Function.update s.muxes m { s.muxes m with woken := true } := rfl

/-- A post does not move the thread it is for. -/
@[simp] theorem phase_enqueue (c : WakerCommand) (m' : Ctl N) :
    ((s.enqueue m c).muxes m').phase = (s.muxes m').phase := by
  by_cases h : m' = m
  · subst h
    rw [enqueue, muxes_setMux, Function.update_self]
  · rw [enqueue, muxes_setMux, Function.update_of_ne h]

/-- Neither does a wake. -/
@[simp] theorem phase_wake (m' : Ctl N) :
    ((s.wake m).muxes m').phase = (s.muxes m').phase := by
  by_cases h : m' = m
  · subst h
    rw [wake, muxes_setMux, Function.update_self]
  · rw [wake, muxes_setMux, Function.update_of_ne h]

end

/-! ## The steps of a thread -/

variable {N : Nat}

/-- A step that moves a thread on in its program and changes nothing else. -/
inductive Control (transports : List Transport) (s : Node N) (m : Ctl N) :
    Phase N → Phase N → Prop
  | again (h : s.running = true) : Control transports s m .test .polling
  | leave (h : s.running = false) : Control transports s m .test .exited
  | return : Control transports s m (.busy [] []) .test
  | drain {tasks : List Task} : Control transports s m
      (.busy [] (.event .waker :: tasks)) (.busy [] (.drain 0 :: tasks))
  | drained {count : Nat} {tasks : List Task} (h : (s.muxes m).queue = []) :
      Control transports s m (.busy [] (.drain count :: tasks)) (.busy [] tasks)
  | exhausted {count : Nat} {tasks : List Task} (h : maxCommands ≤ count) :
      Control transports s m (.busy [] (.drain count :: tasks)) (.busy [] tasks)
  | listener {id : ResourceId} {t : Transport} {l : Register t.LocalResource Unit}
      {tasks : List Task} (hlocal : id.resourceType = .local)
      (hget : getProcessor transports id = .ok t)
      (hl : ((s.muxes m).processors t).listener id = some l) :
      Control transports s m (.busy [] (.event (.networkRead id) :: tasks))
        (.busy [] (.accept t l.resource id :: tasks))
  | noListener {id : ResourceId} {tasks : List Task} (hlocal : id.resourceType = .local) :
      Control transports s m (.busy [] (.event (.networkRead id) :: tasks)) (.busy [] tasks)
  | noProcessor {id : ResourceId} {h : Halt} {tasks : List Task}
      (hget : getProcessor transports id = .error h) :
      Control transports s m (.busy [] (.event (.networkRead id) :: tasks)) (.busy [] [.halt h])
  | panic {p : Panic} {tasks : List Task} :
      Control transports s m (.busy [] (.halt (.panic p) :: tasks)) (.panicked p)

/-- Control is where nothing is pending. -/
theorem Control.pending_eq_nil {transports : List Transport} {s : Node N} {m : Ctl N}
    {φ φ' : Phase N} (h : Control transports s m φ φ') : φ.pending = [] ∧ φ'.pending = [] := by
  cases h <;> exact ⟨rfl, rfl⟩

/-- A poll event of the remote `id`, and what the driver does about it. -/
inductive RemoteEvent (transports : List Transport) (ps : Processors) (a : Answers)
    (id : ResourceId) : PollEvent → Action Processors → Prop
  | read (h : id.resourceType = .remote) : RemoteEvent transports ps a id (.networkRead id)
      (processNetworkRead transports ps id a.pending a.reads)
  | write : RemoteEvent transports ps a id (.networkWrite id)
      (processNetworkWrite transports ps id a.pending)

theorem RemoteEvent.ne_waker {transports : List Transport} {ps : Processors} {a : Answers}
    {id : ResourceId} {e : PollEvent} {p : Action Processors}
    (h : RemoteEvent transports ps a id e p) : e ≠ .waker := by
  cases h <;> exact nofun

theorem muxes_polled (s : Node N) (m : Ctl N) (batch : List PollEvent) :
    (s.polled m batch).muxes = Function.update s.muxes m { s.muxes m with
      woken := (s.muxes m).woken && !(batch.contains .waker)
      phase := .busy [] (batch.map .event) } := rfl

theorem muxes_processRemote (transports : List Transport) (s : Node N) (m : Ctl N) (id : ResourceId)
    (p : Action Processors) (tasks : List Task) : (s.processRemote transports m id p tasks).muxes =
      Function.update s.muxes m ((s.muxes m).proceed p tasks) := rfl

theorem muxes_processPost (transports : List Transport) (s : Node N) (m : Ctl N) (x : Mux N)
    (p : Post) (tasks : List Task) (env : CommandEnv) :
    (s.processPost transports m x p tasks env).muxes = Function.update s.muxes m
      ({ x with watched := p.command.watches.toList ++ x.watched }.proceed
        (processCommand transports x.processors p.command (env.withStream ⟨s.streams⟩))
        tasks) := rfl

/-- A turn of the accept loop takes nothing from the queue. -/
theorem muxes_acceptFrom (s : Node N) (m : Ctl N) {t : Transport} (l : t.LocalResource)
    (id : ResourceId) (tasks : List Task) (env : AcceptEnv) :
    (s.acceptFrom m t l id tasks env).muxes = Function.update s.muxes m { s.muxes m with
      phase := acceptPhase (Driver.acceptTurn l id (s.acceptEnv id env)) t l id tasks } := by
  change Function.update s.muxes m { s.muxes m with queue := _, phase := _ } = _
  rw [keeps_acceptPhase]

variable [NeZero N]

/-- The steps of a thread. -/
inductive MuxStep (transports : List Transport) (s : Node N) (m : Ctl N) (a : Answers) :
    Node N → Prop
  | control {φ φ' : Phase N} (hphase : (s.muxes m).phase = φ)
      (h : Control transports s m φ φ') : MuxStep transports s m a (s.setPhase m φ')
  | poll (hphase : (s.muxes m).phase = .polling)
      (h : ∀ e ∈ a.batch, (s.muxes m).reports e = true) :
      MuxStep transports s m a (s.polled m a.batch)
  | effect {e : Effect} {pending : List (Pending N)} {tasks : List Task}
      (hphase : (s.muxes m).phase = .busy (.effect e :: pending) tasks) :
      MuxStep transports s m a (s.perform m pending tasks e)
  | wake {m' : Ctl N} {pending : List (Pending N)} {tasks : List Task}
      (hphase : (s.muxes m).phase = .busy (.wake m' :: pending) tasks) :
      MuxStep transports s m a ((s.setPhase m (.busy pending tasks)).wake m')
  | remote {id : ResourceId} {e : PollEvent} {p : Action Processors} {tasks : List Task}
      (hphase : (s.muxes m).phase = .busy [] (.event e :: tasks))
      (h : RemoteEvent transports (s.muxes m).processors a id e p) :
      MuxStep transports s m a (s.processRemote transports m id p tasks)
  | post {count : Nat} {p : Post} {queue : List Post} {tasks : List Task}
      (hphase : (s.muxes m).phase = .busy [] (.drain count :: tasks))
      (hqueue : (s.muxes m).queue = p :: queue) (hcount : count < maxCommands) :
      MuxStep transports s m a (s.processPost transports m { s.muxes m with queue } p
        (.drain (count + 1) :: tasks) a.command)
  | accept {t : Transport} {l : t.LocalResource} {id : ResourceId} {tasks : List Task}
      (hphase : (s.muxes m).phase = .busy [] (.accept t l id :: tasks)) :
      MuxStep transports s m a (s.acceptFrom m t l id tasks a.accept)

theorem processEvent_cases {transports : List Transport} {s : Node N} {m : Ctl N} {a : Answers}
    {e : PollEvent} {tasks : List Task}
    (hphase : (s.muxes m).phase = .busy [] (.event e :: tasks)) :
    MuxStep transports s m a (s.processEvent transports m tasks a e) := by
  cases e with
  | waker => exact .control hphase .drain
  | networkWrite id => exact .remote hphase .write
  | networkRead id =>
      rw [processEvent]
      cases htype : id.resourceType with
      | remote => exact .remote hphase (.read htype)
      | «local» =>
          cases hget : getProcessor transports id with
          | error h => exact .control hphase (.noProcessor hget)
          | ok t =>
              cases hl : ((s.muxes m).processors t).listener id with
              | none =>
                  simp only [hl]
                  exact .control hphase (.noListener htype)
              | some l =>
                  simp only [hl]
                  exact .control hphase (.listener htype hget hl)

/-- **Every step of a thread is one of those.** -/
theorem stepMux_cases {transports : List Transport} {s s' : Node N} {m : Ctl N} {a : Answers}
    (h : s.stepMux transports m a = some s') : MuxStep transports s m a s' := by
  rw [stepMux] at h
  split at h
  · rename_i hphase
    cases h
    cases hrun : s.running with
    | true => exact .control hphase (.again hrun)
    | false => exact .control hphase (.leave hrun)
  · rename_i hphase
    split at h
    · rename_i hall
      cases h
      exact .poll hphase (List.all_eq_true.1 hall)
    · cases h
  · rename_i hphase
    cases h
    exact .effect hphase
  · rename_i hphase
    cases h
    exact .wake hphase
  · rename_i hphase
    cases h
    exact processEvent_cases hphase
  · rename_i hphase
    split at h
    · rename_i hcount
      split at h
      · rename_i hqueue
        cases h
        exact .post hphase hqueue hcount
      · rename_i hqueue
        cases h
        exact .control hphase (.drained hqueue)
    · rename_i hcount
      cases h
      exact .control hphase (.exhausted (Nat.le_of_not_lt hcount))
  · rename_i hphase
    cases h
    exact .accept hphase
  · rename_i hphase
    cases h
    exact .control hphase .panic
  · cases h
  · rename_i hphase
    cases h
    exact .control hphase .return
  · cases h
  · cases h

end Node

end MessageIo
