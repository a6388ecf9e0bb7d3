import MessageIo.Node.Origin

/-!
# Which panics the TCP transport can come to

A thread of the node dies when a driver panics.  Three of the panics stand for calls that
were never meant to be made: an address that is not a socket address, a send through a
listener, an id without a driver.  With the TCP transport alone, the last two are out of
reach whatever the user does, because of the ids that the node hands out and of the
controllers that `NodeHandler` posts to.  The first one is reached by connecting to a
string (`dies_of_string`), and in no other way (`no_panicking_branch`).

What is left are the results that the drivers unwrap, and the assertion on the ids.
`Sound` keeps track of all halts at once: they are in a set `H` that is a parameter.
-/

namespace MessageIo

variable {N : Nat} {transports : List Transport} {H : Halt → Prop}

/-! ## Commands for the TCP driver -/

/-- An id of the TCP transport, with its driver compiled in. -/
def IsTcp (transports : List Transport) (id : ResourceId) : Prop :=
  getProcessor transports id = .ok .tcp

/-- A command that the TCP driver can process in the thread `m`. -/
def CommandOk (transports : List Transport) (m : Ctl N) : WakerCommand → Prop
  | .greet _ => True
  | .stop => True
  | .acceptRegisterRemote _ remotePair _ payload =>
      IsTcp transports remotePair.1 ∧ ∃ keepaliveOpt, payload = .tcpAccept keepaliveOpt
  | .connectRegisterRemote _ remotePair _ payload _ =>
      IsTcp transports remotePair.1 ∧ ∃ keepaliveOpt, payload = .tcpConnect keepaliveOpt
  | .listen _ localId _ _ => IsTcp transports localId ∧ m = .master
  | .connect _ remoteId raddr _ => IsTcp transports remoteId ∧ raddr.isSocketAddr = true
  | .send endpoint _ => IsTcp transports endpoint.resourceId ∧ m ≠ .master
  | .sendSync endpoint _ _ => IsTcp transports endpoint.resourceId ∧ m ≠ .master
  | .close id => IsTcp transports id
  | .isReady id _ => IsTcp transports id

/-- What a command gives the poll to watch is of the transport as well. -/
theorem CommandOk.watches {m : Ctl N} {c : WakerCommand} {id : ResourceId}
    (hc : CommandOk transports m c) (hid : c.watches = some id) : IsTcp transports id := by
  cases c <;> cases hid <;> exact hc.1

/-- The calls of a command whose results are unwrapped have succeeded. -/
structure CommandEnv.Succeeds (env : CommandEnv) : Prop where
  registers : env.register.pollAdd = .ok ()
  listens : env.listen.pollAdd = .ok ()
  localAddr : ∃ addr, env.listen.localAddr = .ok addr

variable [NeZero N]

/-- The effects of a TCP driver: what it posts can be processed. -/
def PostsOk (N : Nat) [NeZero N] (transports : List Transport) (e : Effect) : Prop :=
  ∀ id c, e = .post id c → CommandOk transports (workerOf id : Ctl N) c

/-- Other effects do not matter. -/
theorem PostsOk.of_not_post {e : Effect} (h : postOf e = none) : PostsOk N transports e := by
  rintro id c rfl
  cases h

namespace Driver

variable {d : TcpDriver} {E : Effect → Prop} {env : CommandEnv}

/-- A register goes through unless the poll refuses. -/
theorem registerRemote_tcp {id : ResourceId} {r : Tcp.RemoteResource} {p : RemoteProperties}
    {pollAdd : IoResult Unit} (h : pollAdd = .ok () ∨ H (.panic .unwrap)) :
    (Proc.ofExcept (d.registerRemote id r p pollAdd)).Satisfies E (fun _ ↦ True) H := by
  refine .of_ofExcept (fun _ _ ↦ trivial) fun x hx ↦ ?_
  cases pollAdd with
  | ok u => cases hx
  | error err =>
      cases hx
      exact h.resolve_left nofun

theorem registerLocal_tcp {id : ResourceId} {l : Tcp.LocalResource} {pollAdd : IoResult Unit}
    (h : pollAdd = .ok () ∨ H (.panic .unwrap)) :
    (Proc.ofExcept (d.registerLocal id l pollAdd)).Satisfies E (fun _ ↦ True) H := by
  refine .of_ofExcept (fun _ _ ↦ trivial) fun x hx ↦ ?_
  cases pollAdd with
  | ok u => cases hx
  | error err =>
      cases hx
      exact h.resolve_left nofun

/-- A send does not panic where there is no listener. -/
theorem processSend_tcp (hlistener : ∀ id, d.listener id = none) (hrun : H .running)
    (endpoint : Endpoint) (data : Bytes) :
    (d.processSend endpoint data env.send).Satisfies (PostsOk N transports) (fun _ ↦ True) H := by
  rw [processSend]
  cases endpoint.resourceId.resourceType with
  | «local» =>
      simp only [hlistener]
      exact .of_pure trivial
  | remote =>
      cases d.remote endpoint.resourceId with
      | none => exact .of_pure trivial
      | some r =>
          have hsend : (Remote.send r.resource data env.send).Satisfies (fun _ ↦ True)
              (fun _ ↦ True) H := by
            refine ⟨fun _ _ ↦ trivial, fun _ _ ↦ trivial, fun x hx ↦ ?_⟩
            obtain rfl := sendLoop_halts r.resource.stream (Nat.zero_le data.length) _ _ hx
            exact hrun
          have hloop : (do
              let _status ← (Remote.send r.resource data env.send).mapEffects Effect.write
              pure PUnit.unit).Satisfies (PostsOk N transports) (fun _ ↦ True) H :=
            (hsend.mapEffects fun _ _ ↦ .of_not_post rfl).bind fun _ _ ↦ .of_pure trivial
          by_cases hready : r.properties.ready = true
          · simp only [if_pos hready]
            exact hloop
          · simp only [if_neg hready]
            exact .of_pure trivial

/-- The address of a new listener is all that is unwrapped on the way to it. -/
theorem processListen_tcp (config : ListenConfig) (localId : ResourceId) (addr : SocketAddr)
    (cb : Callback) (henv : env.Succeeds ∨ H (.panic .unwrap)) :
    (d.processListen config localId addr cb env.listen).Satisfies (PostsOk N transports)
      (fun _ ↦ True) H := by
  have hlisten : (Proc.ofExcept (Tcp.listenWith config addr env.listen)).Satisfies
      (PostsOk N transports) (fun _ ↦ True) H := by
    rw [Tcp.listenWith]
    refine .of_ofExcept (fun _ _ ↦ trivial) fun x hx ↦ ?_
    cases hsocket : listeningSocket config addr env.listen with
    | error err =>
        rw [hsocket] at hx
        cases hx
    | ok listener =>
        rw [hsocket] at hx
        cases haddr : env.listen.localAddr with
        | ok a =>
            rw [haddr] at hx
            cases hx
        | error err =>
            rw [haddr] at hx
            cases hx
            rcases henv with henv | h
            · obtain ⟨a, ha⟩ := henv.localAddr
              cases haddr.symm.trans ha
            · exact h
  refine hlisten.bind fun ret _ ↦ ?_
  rcases ret with err | ⟨l, a⟩
  · exact .effect_bind (.of_not_post rfl) (.of_pure trivial)
  · refine Proc.Satisfies.bind (registerLocal_tcp (henv.imp_left CommandEnv.Succeeds.listens))
      fun _ _ ↦ ?_
    exact .effect_bind (.of_not_post rfl) (.of_pure trivial)

/-- An accepted stream is posted with the payload that its driver expects. -/
theorem acceptTurn_tcp {l : Tcp.LocalResource} {id : ResourceId} {env : AcceptEnv}
    (hid : ∀ remoteId, env.remoteId = some remoteId → IsTcp transports remoteId)
    (haddr : (∃ a, env.localAddr = .ok a) ∨ H (.panic .unwrap))
    (hremote : env.remoteId ≠ none ∨ H (.panic .assertion)) :
    (acceptTurn l id env).Satisfies (PostsOk N transports) (fun _ ↦ True) H := by
  have hturn : AcceptTurnIs (.tcpAccept l.keepaliveOpt) id env (acceptTurn l id env) :=
    acceptTurn_spec (t := .tcp) rfl id env
  generalize acceptTurn l id env = turn at hturn ⊢
  cases hturn with
  | @sent stream addr localAddr remoteId haccept hlocal hsome =>
      refine .effect_bind (f := fun _ ↦ pure true) (fun id' c h ↦ ?_) (.of_pure trivial)
      cases h
      exact ⟨hid remoteId hsome, l.keepaliveOpt, rfl⟩
  | @noAddr stream addr err haccept hlocal =>
      refine .of_halt (haddr.resolve_left ?_)
      rintro ⟨a, ha⟩
      cases ha.symm.trans hlocal
  | noId haccept hlocal hnone => exact .of_halt (hremote.resolve_left fun h ↦ h hnone)
  | nothing haccept => exact .of_pure trivial

end Driver

/-- **A command of the TCP transport** only halts in the calls that it unwraps, and what it
posts is for the TCP driver again. -/
theorem processCommand_tcp {m : Ctl N} {ps : Processors} {c : WakerCommand} (env : CommandEnv)
    (hc : CommandOk transports m c) (hlistener : m ≠ .master → ∀ id, (ps .tcp).listener id = none)
    (henv : env.Succeeds ∨ H (.panic .unwrap)) (hrun : H .running) :
    (processCommand transports ps c env).Satisfies (PostsOk N transports) (fun _ ↦ True) H := by
  have hget : ∀ {id : ResourceId}, IsTcp transports id →
      (Proc.ofExcept (getProcessor transports id)).Satisfies (PostsOk N transports)
        (fun t ↦ t = .tcp) H := by
    intro id hid
    rw [hid]
    exact .of_pure rfl
  have hadd := henv.imp_left CommandEnv.Succeeds.registers
  cases c with
  | greet text => exact .effect_bind (.of_not_post rfl) (.of_pure trivial)
  | stop => exact .effect_bind (.of_not_post rfl) (.of_pure trivial)
  | acceptRegisterRemote localPair remotePair stream payload =>
      obtain ⟨hid, keepaliveOpt, rfl⟩ := hc
      refine (hget hid).bind ?_
      rintro t rfl
      exact Proc.Satisfies.bind (Driver.registerRemote_tcp hadd) fun _ _ ↦ .of_pure trivial
  | connectRegisterRemote localAddr remotePair stream payload cb =>
      obtain ⟨hid, keepaliveOpt, rfl⟩ := hc
      refine (hget hid).bind ?_
      rintro t rfl
      refine Proc.Satisfies.bind (Q := fun _ ↦ True) ?_ fun _ _ ↦ .of_pure trivial
      refine Proc.Satisfies.bind (Q := fun _ ↦ True) (.of_ofExcept (fun _ _ ↦ trivial) nofun)
        fun r _ ↦ ?_
      exact Proc.Satisfies.bind (Driver.registerRemote_tcp hadd) fun _ _ ↦
        .effect_bind (.of_not_post rfl) (.of_pure trivial)
  | listen config localId addr cb =>
      refine (hget hc.1).bind ?_
      rintro t rfl
      exact (Driver.processListen_tcp config localId addr cb henv).bind fun _ _ ↦ .of_pure trivial
  | connect config remoteId raddr cb =>
      obtain ⟨hid, haddr⟩ := hc
      refine (hget hid).bind ?_
      rintro t rfl
      cases raddr with
      | str string => cases haddr
      | socket addr =>
          have hcall : (Driver.processConnect Tcp.RemoteResource Tcp.LocalResource config remoteId
              (.socket addr) cb env.connect).Satisfies (PostsOk N transports) (fun _ ↦ True) H := by
            refine Proc.Satisfies.bind (Q := fun ret ↦ ∀ info payload, ret = .ok (info, payload) →
              payload = .tcpConnect info.keepaliveOpt) (.of_ofExcept ?_ nofun) ?_
            · rintro ret hret info payload rfl
              obtain ⟨info', -, heq⟩ := map_eq_ok.1 (Except.ok.inj hret)
              cases heq
              rfl
            · rintro ret hret
              rcases ret with err | ⟨info, payload⟩
              · exact .of_pure trivial
              · refine .of_effect (fun id c h ↦ ?_) trivial
                cases h
                exact ⟨hid, info.keepaliveOpt, hret info payload rfl⟩
          exact hcall.bind fun _ _ ↦ .of_pure trivial
  | send endpoint buffer =>
      refine (hget hc.1).bind ?_
      rintro t rfl
      exact (Driver.processSend_tcp (hlistener hc.2) hrun endpoint buffer).bind fun _ _ ↦
        .of_pure trivial
  | sendSync endpoint buffer cb =>
      refine (hget hc.1).bind ?_
      rintro t rfl
      exact (Driver.processSend_tcp (hlistener hc.2) hrun endpoint buffer).bind fun _ _ ↦
        .effect_bind (.of_not_post rfl) (.of_pure trivial)
  | close id => exact (hget hc).bind fun _ _ ↦ .of_pure trivial
  | isReady id cb =>
      exact (hget hc).bind fun _ _ ↦ .effect_bind (.of_not_post rfl) (.of_pure trivial)

/-! ## Runs with the TCP transport -/

/-- A task that leads to no other halt than those in `H`. -/
def TaskOk (transports : List Transport) (H : Halt → Prop) : Task → Prop
  | .event (.networkRead id) => IsTcp transports id
  | .event (.networkWrite id) => IsTcp transports id
  | .event .waker => True
  | .drain _ => True
  | .accept t _ id => t = .tcp ∧ IsTcp transports id
  | .halt x => H x

/-- The calls of a step whose results are unwrapped have succeeded. -/
structure Answers.Succeed (a : Answers) : Prop where
  command : a.command.Succeeds
  localAddr : ∃ addr, a.accept.localAddr = .ok addr

namespace Node

/-- `NodeHandler` is used with the TCP transport, and with ids that the node has handed out. -/
def UsesTcp (s : Node N) : Step N → Prop
  | .generate _ t => t = .tcp
  | .enqueue m c => s.Posts m c ∧ ∀ id, c.target = some id → id ∈ s.ids
  | _ => True

/-- Connections are made to socket addresses. -/
def ConnectsToSockets : Step N → Prop
  | .enqueue _ (.connect _ _ raddr _) => raddr.isSocketAddr = true
  | _ => True

/-- What is unwrapped has succeeded, and there are ids left. -/
def NothingFails (s : Node N) : Step N → Prop
  | .mux _ a => a.Succeed ∧ s.rgen.last ≤ ResourceId.maxBaseValue
  | _ => True

/-- What is in the hands of a thread is for the TCP driver, and the thread has come to no halt
but those in `H`. -/
structure Sound (transports : List Transport) (H : Halt → Prop) (s : Node N) : Prop where
  ids : ∀ id ∈ s.ids, IsTcp transports id
  held : ∀ id ∈ s.held, IsTcp transports id
  queues : ∀ m, ∀ p ∈ (s.muxes m).queue, CommandOk transports m p.command
  posts : ∀ m e, .effect e ∈ (s.muxes m).phase.pending → PostsOk N transports e
  watched : ∀ m, ∀ id ∈ (s.muxes m).watched, IsTcp transports id
  tasks : ∀ m, ∀ task ∈ (s.muxes m).phase.tasks, TaskOk transports H task
  listeners : ∀ m, m ≠ .master → ∀ id, ((s.muxes m).processors .tcp).listener id = none
  panicked : ∀ m p, (s.muxes m).phase = .panicked p → H (.panic p)

theorem sound_new : (new N).Sound transports H where
  ids _ h := absurd h List.not_mem_nil
  held _ h := absurd h List.not_mem_nil
  queues _ _ h := absurd h List.not_mem_nil
  posts _ _ h := absurd h List.not_mem_nil
  watched _ _ h := absurd h List.not_mem_nil
  tasks _ _ h := absurd h List.not_mem_nil
  listeners _ _ _ := rfl
  panicked _ _ h := nomatch h

/-- What a step needs of the answers to halt with nothing but `H`. -/
structure Allows (H : Halt → Prop) (s : Node N) (a : Answers) : Prop where
  running : H .running
  unwraps : a.Succeed ∨ H (.panic .unwrap)
  ids : s.rgen.last ≤ ResourceId.maxBaseValue ∨ H (.panic .assertion)

section

variable {s s' : Node N} {m : Ctl N} {a : Answers}

/-- An id that is made for the adapter of a TCP id is a TCP id. -/
theorem isTcp_generate {id id' : ResourceId} {g : ResourceIdGenerator} (hid : IsTcp transports id)
    (h : (g.generate id.adapterId).1 = some id') : IsTcp transports id' := by
  obtain ⟨hmem, hadapter⟩ := getProcessor_eq_ok.1 hid
  exact getProcessor_eq_ok.2 ⟨hmem, (ResourceIdGenerator.generate_some h).2.1.trans hadapter⟩

/-- What the call of a step is to do: post for the TCP driver only, leave no listener in a
worker, and halt with nothing but `H`. -/
abbrev CallOk (transports : List Transport) (H : Halt → Prop) (m : Ctl N)
    (p : Action Processors) : Prop :=
  p.Satisfies (PostsOk N transports)
    (fun ps ↦ m ≠ .master → ∀ id, (ps .tcp).listener id = none) H

theorem Sound.remoteEvent {id : ResourceId} {e : PollEvent} {p : Action Processors}
    {tasks : List Task} (h : s.Sound transports H) (hallows : s.Allows H a)
    (hphase : (s.muxes m).phase = .busy [] (.event e :: tasks))
    (hevent : RemoteEvent transports (s.muxes m).processors a id e p) :
    CallOk transports H m p := by
  have htask : TaskOk transports H (.event e) := by
    refine h.tasks m _ ?_
    rw [hphase]
    exact List.mem_cons_self
  have hid : IsTcp transports id := by
    cases hevent with
    | read _ => exact htask
    | write => exact htask
  refine hevent.spec.mono ?_ ?_ ?_
  · rintro e ⟨event, rfl, -⟩
    exact .of_not_post rfl
  · intro ps hps hm id'
    rw [(hps.evolves .tcp).listener id']
    exact h.listeners m hm id'
  · rintro x (hx | ⟨t, ht, hx⟩)
    · cases hid.symm.trans hx
    · cases hid.symm.trans ht
      rw [hx rfl]
      exact hallows.running

omit [NeZero N] in
/-- A command that is not for a worker leaves no listener in one. -/
theorem listener_commandDone {ps ps' : Processors} {c : WakerCommand}
    (hdone : CommandDone transports ps c ps') (hc : CommandOk transports m c)
    (hlistener : m ≠ .master → ∀ id, (ps .tcp).listener id = none) (hm : m ≠ .master)
    (id : ResourceId) : (ps' .tcp).listener id = none := by
  have hupdate : ∀ {t : Transport} {d : Driver t.RemoteResource t.LocalResource},
      (∀ id, (ps t).listener id = none → d.listener id = none) →
      (Function.update ps t d .tcp).listener id = none := by
    intro t d hd
    by_cases ht : t = .tcp
    · subst ht
      rw [Function.update_self]
      exact hd id (hlistener hm id)
    · rw [Function.update_of_ne (Ne.symm ht)]
      exact hlistener hm id
  cases hdone with
  | registers harrival hget hsource => exact hupdate fun _ h ↦ h
  | listens hc' hremote =>
      subst hc'
      exact absurd hc.2 hm
  | keeps harrival => exact hlistener hm id
  | @closes id' t hc' hget =>
      refine hupdate fun id'' hnone ↦ ?_
      rw [Driver.processClose]
      cases id'.resourceType with
      | remote => exact hnone
      | «local» =>
          rw [Driver.listener, Driver.deregisterLocal]
          by_cases hid : id'' = id'
          · subst hid
            exact ResourceRegistry.get_deregister_self _ _
          · rw [ResourceRegistry.get_deregister_of_ne hid]
            exact hnone

/-- **The call of a step** keeps to the TCP driver. -/
theorem Sound.calls {p : Action Processors} (h : s.Sound transports H) (hallows : s.Allows H a)
    (hp : Calls transports s m a p) : CallOk transports H m p := by
  have htask : ∀ {task : Task} {tasks : List Task}, (s.muxes m).phase = .busy [] (task :: tasks) →
      TaskOk transports H task := by
    intro task tasks hphase
    refine h.tasks m _ ?_
    rw [hphase]
    exact List.mem_cons_self
  cases hp with
  | noProcessor hphase hget => cases (show IsTcp transports _ from htask hphase).symm.trans hget
  | remote hphase hevent => exact h.remoteEvent hallows hphase hevent
  | @post count p queue tasks hphase hqueue =>
      have hc : CommandOk transports m p.command := by
        refine h.queues m p ?_
        rw [hqueue]
        exact List.mem_cons_self
      have htcp := processCommand_tcp (a.command.withStream ⟨s.streams⟩) hc (h.listeners m)
        (hallows.unwraps.imp_left fun hsucceed ↦ ⟨hsucceed.command.registers,
          hsucceed.command.listens, hsucceed.command.localAddr⟩) hallows.running
      refine ⟨htcp.effects, fun ps hps ↦ ?_, htcp.halts⟩
      exact listener_commandDone ((processCommand_spec ..).returns ps hps) hc (h.listeners m)
  | @accept t l id tasks hphase =>
      obtain ⟨rfl, hid⟩ := htask hphase
      have hturn : (Driver.acceptTurn l id (s.acceptEnv id a.accept)).Satisfies
          (PostsOk N transports) (fun _ ↦ True) H :=
        Driver.acceptTurn_tcp (fun remoteId hremote ↦ isTcp_generate hid hremote)
          (hallows.unwraps.imp_left Answers.Succeed.localAddr)
          (hallows.ids.imp_left fun hlast ↦ ResourceIdGenerator.generate_ne_none hlast id)
      refine ⟨hturn.effects, fun ps hps ↦ ?_, fun x hx ↦ ?_⟩
      · obtain ⟨_, -, rfl⟩ := map_eq_ok.1 hps
        exact h.listeners m
      · cases hres : (Driver.acceptTurn l id (s.acceptEnv id a.accept)).result with
        | ok more =>
            simp only [hres] at hx
            cases hx
        | error y =>
            simp only [hres] at hx
            cases hx
            exact hturn.halts _ hres

/-! ## Every step keeps the invariant -/

theorem Sound.newTask {task : Task} (h : s.Sound transports H) (hallows : s.Allows H a)
    (htask : NewTask transports s m a task) : TaskOk transports H task := by
  cases htask with
  | @event e hreports =>
      cases e with
      | waker => trivial
      | networkRead id => exact h.watched m id (of_decide_eq_true hreports)
      | networkWrite id => exact h.watched m id (of_decide_eq_true hreports)
  | drain count => trivial
  | @accept t l id tasks hphase hget =>
      have hid : IsTcp transports id := by
        refine h.tasks m (.event (.networkRead id)) ?_
        rw [hphase]
        exact List.mem_cons_self
      cases hid.symm.trans hget
      exact ⟨rfl, hid⟩
  | halt hp hres => exact (h.calls hallows hp).halts _ hres

theorem Sound.stepMux (h : s.Sound transports H) (hallows : s.Allows H a)
    (hs : MuxStep transports s m a s') : s'.Sound transports H where
  ids id hid := by
    rcases hs.mem_ids hid with hid | ⟨t, l, id', tasks, hphase, hgenerate⟩
    · exact h.ids id hid
    · have htask : TaskOk transports H (.accept t l id') := by
        refine h.tasks m _ ?_
        rw [hphase]
        exact List.mem_cons_self
      exact isTcp_generate htask.2 hgenerate
  held := hs.held ▸ h.held
  queues m' p hp := by
    rcases hs.mem_queue hp with hp | ⟨id, hpending, rfl, -⟩
    · exact h.queues m' p hp
    · exact h.posts m _ hpending id p.command rfl
  posts m' e he := by
    rcases hs.mem_pending he with he | ⟨-, p, hp, he⟩
    · exact h.posts m' e he
    · exact (h.calls hallows hp).effects e he
  watched m' id hid := by
    rcases hs.mem_watched hid with hid | ⟨-, p, hp, hwatches⟩
    · exact h.watched m' id hid
    · exact (h.queues m p hp).watches hwatches
  tasks m' task htask := by
    rcases hs.mem_tasks htask with htask | ⟨-, hnew⟩
    · exact h.tasks m' task htask
    · exact h.newTask hallows hnew
  listeners m' hm id := by
    rcases hs.drives m' with hsame | ⟨rfl, p, hp, hres⟩
    · rw [hsame]
      exact h.listeners m' hm id
    · exact (h.calls hallows hp).returns _ hres hm id
  panicked m' p hp := by
    rcases hs.panicked hp with hp | ⟨-, htask⟩
    · exact h.panicked m' p hp
    · exact h.tasks m _ htask

/-- What the user posts can be processed. -/
theorem Sound.commandOk {c : WakerCommand} (h : s.Sound transports H)
    (huses : s.UsesTcp (.enqueue m c)) (hsockets : ConnectsToSockets (.enqueue m c)) :
    CommandOk transports m c := by
  obtain ⟨hposts, htarget⟩ := huses
  cases c with
  | greet text => trivial
  | stop => trivial
  | acceptRegisterRemote localPair remotePair stream payload => exact hposts.elim
  | connectRegisterRemote localAddr remotePair stream payload cb => exact hposts.elim
  | listen config localId addr cb => exact ⟨h.held localId hposts.2.1, hposts.1⟩
  | connect config remoteId raddr cb => exact ⟨h.held remoteId hposts.2.1, hsockets⟩
  | send endpoint buffer =>
      subst hposts
      exact ⟨h.ids _ (htarget _ rfl), nofun⟩
  | sendSync endpoint buffer cb =>
      subst hposts
      exact ⟨h.ids _ (htarget _ rfl), nofun⟩
  | close id => exact h.ids _ (htarget _ rfl)
  | isReady id cb => exact h.ids _ (htarget _ rfl)

/-- A step of the user moves no thread. -/
theorem Sound.of_user (h : s.Sound transports H) (hids : ∀ id ∈ s'.ids, IsTcp transports id)
    (hheld : ∀ id ∈ s'.held, IsTcp transports id)
    (hqueues : ∀ m, ∀ p ∈ (s'.muxes m).queue, CommandOk transports m p.command)
    (hphase : ∀ m, (s'.muxes m).phase = (s.muxes m).phase)
    (hdrivers : ∀ m, (s'.muxes m).processors = (s.muxes m).processors ∧
      (s'.muxes m).watched = (s.muxes m).watched) : s'.Sound transports H where
  ids := hids
  held := hheld
  queues := hqueues
  posts m := hphase m ▸ h.posts m
  watched m := (hdrivers m).2 ▸ h.watched m
  tasks m := hphase m ▸ h.tasks m
  listeners m := (hdrivers m).1 ▸ h.listeners m
  panicked m := hphase m ▸ h.panicked m

/-- **Every step keeps the invariant.** -/
theorem Sound.step {b : Step N} (h : s.Sound transports H) (huses : s.UsesTcp b)
    (hsockets : ConnectsToSockets b) (hallows : ∀ m a, b = .mux m a → s.Allows H a)
    (hs : s.step transports b = some s') : s'.Sound transports H := by
  cases b with
  | generate resourceType t =>
      obtain rfl := huses
      rw [Node.step] at hs
      split at hs
      · rename_i hmem
        cases hs
        have hnew : ∀ {g : ResourceIdGenerator} {id : ResourceId},
            (g.generate Transport.tcp.id).1 = some id → IsTcp transports id := fun hid ↦
          getProcessor_eq_ok.2 ⟨hmem, (ResourceIdGenerator.generate_some hid).2.1⟩
        have hcons : ∀ {g : ResourceIdGenerator} {ids : List ResourceId},
            (∀ id ∈ ids, IsTcp transports id) →
            ∀ id ∈ (g.generate Transport.tcp.id).1.toList ++ ids, IsTcp transports id := by
          intro g ids hids id hid
          rcases List.mem_append.1 hid with hid | hid
          · exact hnew (Option.mem_toList.1 hid)
          · exact hids id hid
        cases resourceType with
        | remote =>
            exact h.of_user (hcons h.ids) (hcons h.held) h.queues (fun _ ↦ rfl) fun _ ↦ ⟨rfl, rfl⟩
        | «local» =>
            exact h.of_user (hcons h.ids) (hcons h.held) h.queues (fun _ ↦ rfl) fun _ ↦ ⟨rfl, rfl⟩
      · cases hs
  | enqueue m c =>
      cases hs
      refine h.of_user h.ids ?_ ?_ (phase_enqueue c) (drivers_enqueue c)
      · intro id hid
        refine h.held id ?_
        change id ∈ (postedId c).elim s.held s.held.erase at hid
        cases hc : postedId c with
        | none => rwa [hc] at hid
        | some id' =>
            rw [hc] at hid
            exact List.mem_of_mem_erase hid
      · intro m' p hp
        rcases mem_queue_enqueue hp with hp | ⟨rfl, rfl⟩
        · exact h.queues m' p hp
        · exact h.commandOk huses hsockets
  | wake m =>
      rw [Node.step] at hs
      split at hs
      · cases hs
        refine h.of_user h.ids h.held ?_ phase_wake drivers_wake
        intro m' p hp
        exact h.queues m' p (mem_queue_update hp muxes_wake fun _ hp ↦ hp)
      · cases hs
  | stop =>
      cases hs
      exact h.of_user h.ids h.held h.queues (fun _ ↦ rfl) fun _ ↦ ⟨rfl, rfl⟩
  | mux m a => exact h.stepMux (hallows m a rfl) (stepMux_cases hs)

end

/-- A use of the TCP transport that connects to socket addresses only. -/
def UsesSockets (s : Node N) (b : Step N) : Prop := s.UsesTcp b ∧ ConnectsToSockets b

/-- **No thread comes to a panicking branch** when connections are made to socket addresses: all
that is left are results that are unwrapped and ids that have run out, and when these do not
occur no thread dies. -/
theorem no_panicking_branch (transports : List Transport) {s : Node N}
    (h : Transition.Reach (step transports) UsesSockets (new N) s) :
    (∀ m p, (s.muxes m).phase = .panicked p → p = .unwrap ∨ p = .assertion) ∧
      (Transition.Reach (step transports) (fun s b ↦ s.UsesSockets b ∧ s.NothingFails b) (new N) s →
        ∀ m p, (s.muxes m).phase ≠ .panicked p) := by
  constructor
  · have hsound : s.Sound transports fun x ↦
        x = .running ∨ x = .panic .unwrap ∨ x = .panic .assertion := by
      refine h.invariant sound_new fun hs huses hstep ↦ hs.step huses.1 huses.2 ?_ hstep
      intro m a _
      exact ⟨.inl rfl, .inr (.inr (.inl rfl)), .inr (.inr (.inr rfl))⟩
    intro m p hp
    rcases hsound.panicked m p hp with hx | hx | hx
    · cases hx
    · cases hx
      exact .inl rfl
    · cases hx
      exact .inr rfl
  · intro h m p hp
    have hsound : s.Sound transports fun x ↦ x = .running := by
      refine h.invariant sound_new fun hs huses hstep ↦ hs.step huses.1.1 huses.1.2 ?_ hstep
      rintro m a rfl
      exact ⟨rfl, .inl huses.2.1, .inl huses.2.2⟩
    cases hsound.panicked m p hp

/-- A command that connects under the first id of a node. -/
def firstConnect (raddr : RemoteAddr) : WakerCommand := .connect .default ⟨⟨1⟩⟩ raddr ⟨0⟩

/-- A node with one worker whose user has called `connect`, up to the wake. -/
def connecting (raddr : RemoteAddr) : Node 1 :=
  let s := (new 1).generateId .remote .tcp
  { s.enqueue .master (firstConnect raddr) with
    held := [], posters := Function.update s.posters .master 1 }

theorem reach_connecting {raddr : RemoteAddr} {ok : Node 1 → Step 1 → Prop}
    (hgenerate : ok (new 1) (.generate .remote .tcp))
    (henqueue : ok ((new 1).generateId .remote .tcp) (.enqueue .master (firstConnect raddr))) :
    Transition.Reach (step [.tcp]) ok (new 1) (connecting raddr) :=
  (Transition.Reach.refl.tail hgenerate rfl).tail henqueue rfl

theorem usesTcp_connecting (raddr : RemoteAddr) :
    ((new 1).generateId .remote .tcp).UsesTcp (.enqueue .master (firstConnect raddr)) :=
  ⟨⟨rfl, List.mem_cons_self, rfl⟩, fun _ h ↦ nomatch h⟩

/-- The master takes the command and processes it. -/
def masterConnects {N : Nat} : List (Step N) :=
  [.wake .master, .mux .master (.quiet []), .mux .master (.quiet [.waker]),
    .mux .master (.quiet []), .mux .master (.quiet []), .mux .master (.quiet [])]

/-- A connection to a socket address comes to its worker. -/
theorem no_panicking_branch_socket : ∃ s : Node 1,
    Transition.run (step [.tcp]) (connecting (.socket (.localhost 80))) masterConnects = some s ∧
      ((s.muxes (.worker 0)).queue.map Post.command) =
        [registration ⟨1⟩ ⟨0⟩ ⟨⟨0⟩, .localhost 80, .localhost 80, none, none⟩ (.tcpConnect none)] ∧
      ∀ m p, (s.muxes m).phase ≠ .panicked p := by
  have hquiet : ∀ {s : Node 1} {batch : List PollEvent}, s.rgen.last = 2 →
      s.UsesSockets (.mux .master (.quiet batch)) ∧
        s.NothingFails (.mux .master (.quiet batch)) := by
    intro s batch h
    refine ⟨⟨trivial, trivial⟩, ⟨⟨rfl, rfl, _, rfl⟩, _, rfl⟩, ?_⟩
    rw [h]
    decide
  have h : Transition.Reach (step [.tcp]) (fun s b ↦ s.UsesSockets b ∧ s.NothingFails b) (new 1)
      (connecting (.socket (.localhost 80))) :=
    reach_connecting ⟨⟨rfl, trivial⟩, trivial⟩ ⟨⟨usesTcp_connecting _, rfl⟩, trivial⟩
  have hwake := h.tail (a := Step.wake .master) ⟨⟨trivial, trivial⟩, trivial⟩ rfl
  have htest := hwake.tail (a := Step.mux .master (.quiet [])) (hquiet rfl) rfl
  have hpoll := htest.tail (a := Step.mux .master (.quiet [.waker])) (hquiet rfl) rfl
  have hevent := hpoll.tail (a := Step.mux .master (.quiet [])) (hquiet rfl) rfl
  have hdrain := hevent.tail (a := Step.mux .master (.quiet [])) (hquiet rfl) rfl
  have hpost := hdrain.tail (a := Step.mux .master (.quiet [])) (hquiet rfl) rfl
  exact ⟨_, rfl, rfl, (no_panicking_branch [.tcp] (hpost.mono And.left)).2 hpost⟩

/-- **A connection to a string kills the master.** -/
theorem dies_of_string : ∃ s : Node 1,
    Transition.Reach (step [.tcp]) UsesTcp (new 1) s ∧
      Transition.run (step [.tcp])
        (connecting (.ofString (fun _ ↦ none) "ws://domain:1234/socket")) masterConnects = some s ∧
      (s.muxes .master).phase = .panicked .socketAddr := by
  obtain ⟨s, hrun, hphase⟩ : ∃ s, Transition.run (step [.tcp])
      (connecting (.ofString (fun _ ↦ none) "ws://domain:1234/socket")) masterConnects = some s ∧
        (s.muxes .master).phase = .panicked .socketAddr := ⟨_, rfl, rfl⟩
  refine ⟨s, ?_, hrun, hphase⟩
  have hfree : ∀ b ∈ masterConnects, ∀ s : Node 1, s.UsesTcp b := by
    simp [masterConnects, UsesTcp]
  exact (reach_connecting rfl (usesTcp_connecting _)).trans (.of_run hfree hrun)

end Node

end MessageIo
