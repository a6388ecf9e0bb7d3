import MessageIo.Node.Ownership

/-!
# Asking whether a resource is ready (`NodeHandler::is_ready_sync`)

The question is a command.  `is_ready_sync` posts it to the worker of the id, of whatever type
the id is, and waits for what the driver of that worker says to the callback.

Remotes are where the question goes: in the worker of their id, under the driver of its
adapter, in the registry that the driver looks into.  Listeners are not.  They are with the
master, and for an id of theirs the driver of the worker looks among the remotes.  So nobody who
asks for a listener ever finds it, and `is_ready_sync_iff` is the exact account of it.
-/

namespace MessageIo

namespace Node

variable {N : Nat}

/-! ## What is to be answered -/

/-- A remote of this id is registered somewhere, with this flag. -/
def LiveRemote (s : Node N) (id : ResourceId) (ready : Bool) : Prop :=
  ∃ m t r, ((s.muxes m).processors t).remote id = some r ∧ r.properties.ready = ready

/-- A listener of this id is registered somewhere. -/
def LiveListener (s : Node N) (id : ResourceId) : Prop :=
  ∃ m t l, ((s.muxes m).processors t).listener id = some l

/-- An answer that says what there is: nothing, a listener, or a remote with its flag. -/
structure Truthful (s : Node N) (id : ResourceId) (answer : Option Bool) : Prop where
  none : answer = .none ↔ ¬ s.LiveListener id ∧ ∀ ready, ¬ s.LiveRemote id ready
  listener : s.LiveListener id → answer = some true
  remote : ∀ ready, s.LiveRemote id ready → answer = some ready

/-! ## What is answered -/

section

variable [NeZero N]

/-- What `is_ready_sync` answers if the worker of the id takes the question now. -/
def isReadySync (transports : List Transport) (s : Node N) (id : ResourceId) :
    Except Halt (Option Bool) := do
  let t ← getProcessor transports id
  return ((s.muxes (workerOf id)).processors t).processIsReady id

end

/-- The thread `m` is about to take a command from its queue, and then to go on to `tasks`. -/
structure Takes (s : Node N) (m : Ctl N) (c : WakerCommand) (tasks : List Task) : Prop where
  queue : ∃ learned rest, (s.muxes m).queue = ⟨c, learned⟩ :: rest
  phase : ∃ count rest, (s.muxes m).phase = .busy [] (.drain count :: rest) ∧
    count < maxCommands ∧ tasks = .drain (count + 1) :: rest

/-- The phase in which the callback is about to be told, or the thread about to die. -/
def toldPhase (cb : Callback) (tasks : List Task) : Except Halt (Option Bool) → Phase N
  | .ok answer => .busy [.effect (.call cb (.isReady answer))] tasks
  | .error h => .busy [] [.halt h]

/-! ## Where resources are -/

variable [NeZero N] {transports : List Transport} {s s' : Node N} {m : Ctl N} {a : Answers}

/-- A command in the queue of `m`: what is to be a listener has the id of one, and a question is
with the worker of the id. -/
def Homed (m : Ctl N) : WakerCommand → Prop
  | .listen _ id _ _ => id.resourceType = .local
  | .isReady id _ => m = workerOf id
  | _ => True

theorem Posts.homed {c : WakerCommand} (h : s.Posts m c) : Homed m c := by
  cases c with
  | listen config id addr cb => exact h.2.2
  | isReady id cb => exact h
  | _ => trivial

/-- What a driver posts asks nothing and makes no listener. -/
theorem Registration.homed {id : ResourceId} {c : WakerCommand} (h : Registration id c) :
    Homed m c := by
  obtain ⟨-, arrival, harrival, -⟩ := h
  cases c with
  | listen config id addr cb => cases harrival
  | isReady id cb => cases harrival
  | _ => trivial

/-- **Remotes are with the worker of their id**, and listeners have ids of listeners. -/
structure Homes (transports : List Transport) (s : Node N) : Prop where
  remotes : ∀ m t id r, ((s.muxes m).processors t).remote id = some r →
    m = workerOf id ∧ getProcessor transports id = .ok t ∧ id.resourceType = .remote
  listeners : ∀ m t id l, ((s.muxes m).processors t).listener id = some l →
    id.resourceType = .local
  queued : ∀ m, ∀ p ∈ (s.muxes m).queue, Homed m p.command

theorem homes_new (transports : List Transport) : (new N).Homes transports where
  remotes _ _ _ _ h := nomatch h
  listeners _ _ _ _ h := nomatch h
  queued _ _ h := absurd h List.not_mem_nil

omit [NeZero N] in
/-- A listener after `process_listen` was there before, or is the new one. -/
theorem listener_processListen {t : Transport} {d d' : Driver t.RemoteResource t.LocalResource}
    {config : ListenConfig} {localId : ResourceId} {addr : SocketAddr} {cb : Callback}
    {env : ListenEnv} (h : (d.processListen config localId addr cb env).result = .ok d')
    {id : ResourceId} {l : Register t.LocalResource Unit} (hl : d'.listener id = some l) :
    d.listener id = some l ∨ id = localId := by
  rw [Driver.processListen] at h
  obtain ⟨ret, -, h⟩ := Proc.result_bind_eq_ok h
  cases ret with
  | error err =>
      obtain ⟨-, -, h⟩ := Proc.result_bind_eq_ok h
      cases h
      exact .inl hl
  | ok ret =>
      obtain ⟨d'', hregister, h⟩ := Proc.result_bind_eq_ok h
      obtain ⟨-, -, h⟩ := Proc.result_bind_eq_ok h
      cases h
      obtain ⟨-, -, hregister⟩ := bind_eq_ok.1 hregister
      cases hregister
      by_cases hid : id = localId
      · exact .inr hid
      · exact .inl ((ResourceRegistry.get_register_of_ne hid _ _).symm.trans hl)

omit [NeZero N] in
/-- **A listener after a command** was there before, or is the one that it asks for. -/
theorem listener_processCommand {ps ps' : Processors} {c : WakerCommand} {env : CommandEnv}
    (h : (processCommand transports ps c env).result = .ok ps') {t : Transport} {id : ResourceId}
    {l : Register t.LocalResource Unit} (hl : (ps' t).listener id = some l) :
    (ps t).listener id = some l ∨ ∃ config addr cb, c = .listen config id addr cb := by
  have hupdate : ∀ {t' : Transport} {d : Driver t'.RemoteResource t'.LocalResource},
      ps' = Function.update ps t' d →
      (∀ l', d.listener id = some l' →
        (ps t').listener id = some l' ∨ ∃ config addr cb, c = .listen config id addr cb) →
      (ps t).listener id = some l ∨ ∃ config addr cb, c = .listen config id addr cb := by
    rintro t' d rfl hd
    by_cases ht : t = t'
    · subst ht
      rw [Function.update_self] at hl
      exact hd l hl
    · rw [Function.update_of_ne ht] at hl
      exact .inl hl
  by_cases hlisten : ∃ config localId addr cb, c = .listen config localId addr cb
  · obtain ⟨config, localId, addr, cb, rfl⟩ := hlisten
    obtain ⟨t', -, h⟩ := Proc.result_bind_eq_ok h
    obtain ⟨d, hd, h⟩ := Proc.result_bind_eq_ok h
    cases h
    refine hupdate rfl fun l' hl' ↦ (listener_processListen hd hl').imp_right ?_
    rintro rfl
    exact ⟨config, addr, cb, rfl⟩
  · have hdone := (processCommand_spec transports ps c env).returns ps' h
    cases hdone with
    | registers harrival hget hsource => exact hupdate rfl fun l' hl' ↦ .inl hl'
    | keeps harrival => exact .inl hl
    | listens hc hremote => exact absurd ⟨_, _, _, _, hc⟩ hlisten
    | @closes id' t' hc hget =>
        refine hupdate rfl fun l' hl' ↦ .inl ?_
        rw [Driver.processClose] at hl'
        cases htype : id'.resourceType with
        | remote =>
            rw [htype] at hl'
            exact hl'
        | «local» =>
            rw [htype] at hl'
            by_cases hid : id = id'
            · subst hid
              cases (ResourceRegistry.get_deregister_self _ _).symm.trans hl'
            · exact (ResourceRegistry.get_deregister_of_ne hid).symm.trans hl'

/-- The call of a step leaves every resource where it belongs. -/
theorem Homes.calls {p : Action Processors} {ps : Processors} (h : s.Homes transports)
    (hroutes : s.Routes) (hp : Calls transports s m a p) (hres : p.result = .ok ps) :
    (∀ t id r, (ps t).remote id = some r →
      m = workerOf id ∧ getProcessor transports id = .ok t ∧ id.resourceType = .remote) ∧
    ∀ t id l, (ps t).listener id = some l → id.resourceType = .local := by
  cases hp with
  | noProcessor hphase hget => cases hres
  | @remote id' e p tasks hphase hevent =>
      have hevolve : Processors.Evolve transports id' (s.muxes m).processors ps :=
        hevent.spec.returns ps hres
      refine ⟨fun t id r hr ↦ ?_, fun t id l hl ↦ ?_⟩
      · by_cases hid : id = id'
        · subst hid
          obtain ⟨r', hr', -⟩ := (hevolve.evolves t).same r hr
          exact h.remotes m t id r' hr'
        · rw [(hevolve.evolves t).others id hid] at hr
          exact h.remotes m t id r hr
      · rw [(hevolve.evolves t).listener id] at hl
        exact h.listeners m t id l hl
  | @post count p queue tasks hphase hqueue =>
      have hmem : p ∈ (s.muxes m).queue := by
        rw [hqueue]
        exact List.mem_cons_self
      refine ⟨fun t id r hr ↦ ?_, fun t id l hl ↦ ?_⟩
      · rcases ((processCommand_spec ..).returns ps hres).remote_cases hr with
          hr | ⟨arrival, harrival, hget, rfl, -⟩
        · exact h.remotes m t id r hr
        · obtain ⟨hm, hremote⟩ := (hroutes.queued m p hmem).arrival arrival harrival
          exact ⟨hm, hget, hremote⟩
      · rcases listener_processCommand hres hl with hl | ⟨config, addr, cb, hc⟩
        · exact h.listeners m t id l hl
        · have hhomed : Homed m p.command := h.queued m p hmem
          rw [hc] at hhomed
          exact hhomed
  | accept hphase =>
      obtain ⟨_, -, rfl⟩ := map_eq_ok.1 hres
      exact ⟨h.remotes m, h.listeners m⟩

theorem Homes.stepMux (h : s.Homes transports) (hroutes : s.Routes)
    (hs : MuxStep transports s m a s') : s'.Homes transports where
  remotes m' t id r hr := by
    rcases hs.drives m' with hsame | ⟨rfl, p, hp, hres⟩
    · rw [hsame] at hr
      exact h.remotes m' t id r hr
    · exact (h.calls hroutes hp hres).1 t id r hr
  listeners m' t id l hl := by
    rcases hs.drives m' with hsame | ⟨rfl, p, hp, hres⟩
    · rw [hsame] at hl
      exact h.listeners m' t id l hl
    · exact (h.calls hroutes hp hres).2 t id l hl
  queued m' p hp := by
    rcases hs.mem_queue hp with hp | ⟨id, hpending, -, -⟩
    · exact h.queued m' p hp
    · exact (hroutes.posted m id p.command hpending).homed

/-- No driver changes, and what is posted is where it belongs. -/
theorem Homes.of_quiet (h : s.Homes transports)
    (hprocessors : ∀ m, (s'.muxes m).processors = (s.muxes m).processors)
    (hqueue : ∀ m, ∀ p ∈ (s'.muxes m).queue, p ∈ (s.muxes m).queue ∨ Homed m p.command) :
    s'.Homes transports where
  remotes m t id r hr := by
    rw [hprocessors m] at hr
    exact h.remotes m t id r hr
  listeners m t id l hl := by
    rw [hprocessors m] at hl
    exact h.listeners m t id l hl
  queued m p hp := (hqueue m p hp).elim (h.queued m p) id

/-- **Every step leaves them there**, if the user goes through `NodeHandler`. -/
theorem Homes.step {b : Step N} (h : s.Homes transports) (hroutes : s.Routes)
    (huses : s.UsesHandler b) (hs : s.step transports b = some s') : s'.Homes transports := by
  cases b with
  | generate resourceType t =>
      rw [Node.step] at hs
      split at hs
      · cases hs
        cases resourceType <;> exact h.of_quiet (fun _ ↦ rfl) fun _ _ hp ↦ .inl hp
      · cases hs
  | enqueue m c =>
      cases hs
      refine h.of_quiet (fun m' ↦ (drivers_enqueue c m').1) fun m' p hp ↦ ?_
      rcases mem_queue_enqueue hp with hp | ⟨rfl, rfl⟩
      · exact .inl hp
      · exact .inr (Posts.homed huses)
  | wake m =>
      rw [Node.step] at hs
      split at hs
      · cases hs
        exact h.of_quiet (fun m' ↦ (drivers_wake m').1)
          fun m' p hp ↦ .inl (mem_queue_update hp muxes_wake fun _ hp ↦ hp)
      · cases hs
  | stop =>
      cases hs
      exact h.of_quiet (fun _ ↦ rfl) fun _ _ hp ↦ .inl hp
  | mux m a => exact h.stepMux hroutes (stepMux_cases hs)

theorem homes_of_reach (h : Transition.Reach (step transports) UsesHandler (new N) s) :
    s.Routes ∧ s.Homes transports := by
  refine h.invariant (P := fun s : Node N ↦ s.Routes ∧ s.Homes transports)
    ⟨routes_new, homes_new transports⟩ ?_
  rintro s s' b ⟨hroutes, hhomes⟩ huses hs
  exact ⟨hroutes.step huses hs, hhomes.step hroutes huses hs⟩

/-! ## The answer -/

/-- A remote that is alive is in one place, and there is what its flag says. -/
theorem Homes.liveRemote_iff (h : s.Homes transports) {id : ResourceId} {t : Transport}
    (hget : getProcessor transports id = .ok t) (ready : Bool) :
    s.LiveRemote id ready ↔
      (((s.muxes (workerOf id)).processors t).remote id).map (·.properties.ready) = some ready := by
  constructor
  · rintro ⟨m, t', r, hr, hready⟩
    obtain ⟨rfl, hget', -⟩ := h.remotes m t' id r hr
    cases hget.symm.trans hget'
    rw [hr]
    exact congrArg some hready
  · intro hmap
    obtain ⟨r, hr, hready⟩ := Option.map_eq_some_iff.1 hmap
    exact ⟨_, t, r, hr, hready⟩

/-- No remote has the id of a listener. -/
theorem Homes.not_liveRemote (h : s.Homes transports) {id : ResourceId}
    (hlocal : id.resourceType = .local) (ready : Bool) : ¬ s.LiveRemote id ready := by
  rintro ⟨m, t, r, hr, -⟩
  cases hlocal.symm.trans (h.remotes m t id r hr).2.2

/-- For the id of a listener the answer is that there is nothing. -/
theorem Homes.answer_local (h : s.Homes transports) {id : ResourceId}
    (hlocal : id.resourceType = .local) (t : Transport) :
    ((s.muxes (workerOf id)).processors t).processIsReady id = none := by
  rw [Driver.processIsReady, hlocal]
  refine Option.map_eq_none_iff.2 (Option.eq_none_iff_forall_ne_some.2 fun r hr ↦ ?_)
  exact h.not_liveRemote hlocal r.properties.ready ⟨_, t, r, hr, rfl⟩

/-- Where no listener is alive, the answer is right. -/
theorem Homes.truthful (h : s.Homes transports) {id : ResourceId} {t : Transport}
    (hget : getProcessor transports id = .ok t) (hnot : ¬ s.LiveListener id) :
    s.Truthful id (((s.muxes (workerOf id)).processors t).processIsReady id) := by
  have hanswer : ∀ ready, s.LiveRemote id ready ↔
      ((s.muxes (workerOf id)).processors t).processIsReady id = some ready := by
    intro ready
    cases htype : id.resourceType with
    | remote =>
        rw [Driver.processIsReady, htype]
        exact h.liveRemote_iff hget ready
    | «local» =>
        rw [h.answer_local htype t]
        exact iff_of_false (h.not_liveRemote htype ready) nofun
  constructor
  · rw [Option.eq_none_iff_forall_ne_some]
    constructor
    · exact fun hnone ↦ ⟨hnot, fun ready hlive ↦ hnone ready ((hanswer ready).1 hlive)⟩
    · exact fun hnone ready hsome ↦ hnone.2 ready ((hanswer ready).2 hsome)
  · exact fun hlive ↦ absurd hlive hnot
  · exact fun ready hlive ↦ (hanswer ready).1 hlive

/-- A thread that takes the question answers it as `isReadySync` says. -/
theorem step_takes_isReady {id : ResourceId} {cb : Callback} {tasks : List Task}
    (h : s.Takes (workerOf id) (.isReady id cb) tasks) (a : Answers) :
    ∃ s', s.step transports (.mux (workerOf id) a) = some s' ∧
      (s'.muxes (workerOf id)).phase = toldPhase cb tasks (s.isReadySync transports id) := by
  obtain ⟨learned, queue, hqueue⟩ := h.queue
  obtain ⟨count, rest, hphase, hroom, rfl⟩ := h.phase
  refine ⟨s.processPost transports (workerOf id) { s.muxes (workerOf id) with queue }
    ⟨.isReady id cb, learned⟩ (.drain (count + 1) :: rest) a.command, ?_, ?_⟩
  · rw [Node.step, stepMux, hphase]
    simp only [hroom, if_true, hqueue]
  · change (Function.update s.muxes _ _ _).phase = _
    rw [Function.update_self, isReadySync, Mux.proceed, processCommand]
    cases getProcessor transports id <;> rfl

/-- **What `is_ready_sync` answers.**  In every state the question is with the worker of the id,
which answers at once; and the answer is right exactly for the ids whose adapter there is, but
for those of listeners that are alive. -/
theorem is_ready_sync_iff (transports : List Transport)
    (h : Transition.Reach (step transports) UsesHandler (new N) s) (id : ResourceId) :
    (∀ m cb tasks, s.Takes m (.isReady id cb) tasks → m = workerOf id ∧
      ∀ a, ∃ s', s.step transports (.mux m a) = some s' ∧
        (s'.muxes m).phase = toldPhase cb tasks (s.isReadySync transports id)) ∧
    ((∃ answer, s.isReadySync transports id = .ok answer ∧ s.Truthful id answer) ↔
      (∃ t, getProcessor transports id = .ok t) ∧ ¬ s.LiveListener id) := by
  obtain ⟨-, hhomes⟩ := homes_of_reach h
  refine ⟨fun m cb tasks htakes ↦ ?_, ?_⟩
  · obtain ⟨learned, rest, hqueue⟩ := htakes.queue
    obtain rfl : m = workerOf id := by
      refine hhomes.queued m ⟨.isReady id cb, learned⟩ ?_
      rw [hqueue]
      exact List.mem_cons_self
    exact ⟨rfl, step_takes_isReady htakes⟩
  · rw [isReadySync]
    cases hget : getProcessor transports id with
    | error x =>
        constructor
        · rintro ⟨answer, hanswer, -⟩
          cases hanswer
        · rintro ⟨⟨t, ht⟩, -⟩
          cases ht
    | ok t =>
        constructor
        · rintro ⟨answer, hanswer, htrue⟩
          cases hanswer
          refine ⟨⟨t, rfl⟩, fun hlive ↦ ?_⟩
          have hlocal : id.resourceType = .local := by
            obtain ⟨m, t', l, hl⟩ := hlive
            exact hhomes.listeners m t' id l hl
          cases (hhomes.answer_local hlocal t).symm.trans (htrue.listener hlive)
        · rintro ⟨-, hnot⟩
          exact ⟨_, rfl, hhomes.truthful hget hnot⟩

/-- The first remote that is connected is not ready yet, and `is_ready_sync` says so. -/
theorem is_ready_sync_connected : ∃ s : Node 1,
    Transition.run (step [.tcp]) (connecting (.socket (.localhost 80)))
      (masterConnects ++ workerRegisters) = some s ∧
        s.LiveRemote ⟨⟨1⟩⟩ false ∧ s.isReadySync [.tcp] ⟨⟨1⟩⟩ = .ok (some false) ∧
          s.Truthful ⟨⟨1⟩⟩ (some false) := by
  obtain ⟨s, hrun, hremote, hanswer⟩ : ∃ s : Node 1,
      Transition.run (step [.tcp]) (connecting (.socket (.localhost 80)))
        (masterConnects ++ workerRegisters) = some s ∧
          s.LiveRemote ⟨⟨1⟩⟩ false ∧ s.isReadySync [.tcp] ⟨⟨1⟩⟩ = .ok (some false) :=
    ⟨_, rfl, ⟨.worker 0, .tcp, _, rfl, rfl⟩, rfl⟩
  have hfree : ∀ b ∈ masterConnects ++ workerRegisters, ∀ s : Node 1, s.UsesHandler b := by
    simp [masterConnects, workerRegisters, UsesHandler]
  have hreach : Transition.Reach (step [.tcp]) UsesHandler (new 1) s :=
    (reach_connecting trivial ⟨rfl, List.mem_cons_self, rfl⟩).trans (.of_run hfree hrun)
  have hnot : ¬ s.LiveListener ⟨⟨1⟩⟩ := by
    rintro ⟨m, t, l, hl⟩
    cases (homes_of_reach hreach).2.listeners m t _ l hl
  obtain ⟨answer, hanswer', htrue⟩ :=
    (is_ready_sync_iff [.tcp] hreach ⟨⟨1⟩⟩).2.2 ⟨⟨.tcp, rfl⟩, hnot⟩
  cases hanswer.symm.trans hanswer'
  exact ⟨s, hrun, hremote, hanswer, htrue⟩

/-- The first id of a listener, for TCP. -/
def firstListener : ResourceId := ⟨⟨2 ^ 55 + 1⟩⟩

/-- A command that makes a TCP listener of that id. -/
def firstListen : WakerCommand := .listen .default firstListener (.localhost 80) ⟨0⟩

/-- A node with one worker whose user has called `listen`, up to the wake. -/
def listening : Node 1 :=
  let s := (new 1).generateId .local .tcp
  { s.enqueue .master firstListen with
    held := [], posters := Function.update s.posters .master 1 }

theorem reach_listening : Transition.Reach (step [.tcp]) UsesHandler (new 1) listening := by
  have hgenerate : Transition.Reach (step [.tcp]) UsesHandler (new 1)
      ((new 1).generateId .local .tcp) := .tail .refl (a := .generate .local .tcp) trivial rfl
  exact hgenerate.tail (a := .enqueue .master firstListen) ⟨rfl, List.mem_cons_self, rfl⟩ rfl

/-- The master does what it is asked for; then the user asks for the listener, and the worker
comes to the question. -/
def listenerIsAskedFor : List (Step 1) :=
  [.wake .master, .mux .master (.quiet []), .mux .master (.quiet [.waker]),
    .mux .master (.quiet []), .mux .master (.quiet []), .mux .master (.quiet []),
    .enqueue (.worker 0) (.isReady firstListener ⟨1⟩), .wake (.worker 0),
    .mux (.worker 0) (.quiet []), .mux (.worker 0) (.quiet [.waker]),
    .mux (.worker 0) (.quiet [])]

/-- **A listener that is alive is denied.** -/
theorem listener_denied : ∃ s : Node 1,
    Transition.Reach (step [.tcp]) UsesHandler (new 1) s ∧
      s.Takes (.worker 0) (.isReady firstListener ⟨1⟩) [.drain 1] ∧
        s.LiveListener firstListener ∧ s.isReadySync [.tcp] firstListener = .ok none ∧
          ¬ s.Truthful firstListener none := by
  obtain ⟨s, hrun, htakes, hlive, hanswer⟩ : ∃ s : Node 1,
      Transition.run (step [.tcp]) listening listenerIsAskedFor = some s ∧
        s.Takes (.worker 0) (.isReady firstListener ⟨1⟩) [.drain 1] ∧
          s.LiveListener firstListener ∧ s.isReadySync [.tcp] firstListener = .ok none :=
    ⟨_, rfl, ⟨⟨_, _, rfl⟩, _, _, rfl, by decide, rfl⟩, ⟨.master, .tcp, _, rfl⟩, rfl⟩
  refine ⟨s, ?_, htakes, hlive, hanswer, fun htrue ↦ nomatch htrue.listener hlive⟩
  have hfree : ∀ b ∈ listenerIsAskedFor, ∀ s : Node 1, s.UsesHandler b := by
    have hworker : workerOf firstListener = (.worker 0 : Ctl 1) := by decide
    simp [listenerIsAskedFor, UsesHandler, Posts, hworker]
  exact reach_listening.trans (.of_run hfree hrun)

end Node

end MessageIo
