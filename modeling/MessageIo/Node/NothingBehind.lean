import MessageIo.Node.ConnectSync

/-!
# What a synchronous connect leaves behind

The closures of a call are where the call is.  The first goes from the connect to the registration
of its remote, so that the endpoint that it is called with has the id of the call.  The others ask
for that remote: it has been registered by then, so that `None` means that it is gone, and
`Some(true)` that it has been ready.  That is the invariant `Carried`, and what the call has seen
of it is `Staged`.
-/

namespace MessageIo

namespace ConnectSync

open Node

namespace Session

variable {N : Nat} [NeZero N]

/-! ## Where its closures are -/

variable {c : Call} {transports : List Transport} {s s' : Session N} {M M' : ResourceId → Prop}

/-- A command that carries a closure of the call: the first is on its way from the connect to
the registration of its remote, the others ask for that remote, which has been registered. -/
structure Fits (c : Call) (s : Session N) (command : WakerCommand) : Prop where
  connect : command.carries = some (c.closure 0) → ∃ id, s.remoteId = some id ∧
    ((∃ config raddr cb, command = .connect config id raddr cb) ∨
      ∃ a, command.arrival = some a ∧ a.id = id)
  isReady : ∀ k, command.carries = some (c.closure (k + 1)) → ∃ id, s.remoteId = some id ∧
    (∃ cb, command = .isReady id cb) ∧ s.node.Registered id

/-- What a closure of the call is called with: the endpoint of its remote, and then answers.
`None` means that the remote is gone, `Some(true)` that it was ready (`M`) while the call was
on. -/
structure FitsReply (c : Call) (M : ResourceId → Prop) (s : Session N) (cb : Callback)
    (reply : Reply) : Prop where
  connect : cb = c.closure 0 → ∃ endpoint addr, s.remoteId = some endpoint.resourceId ∧
    reply = .connect (.ok (endpoint, addr))
  isReady : ∀ k, cb = c.closure (k + 1) → ∃ id answer, s.remoteId = some id ∧
    reply = .isReady answer ∧ (answer = none → s.node.Gone id) ∧
      (answer = some true → s.stage.isReturned = false → M id)

/-- What is known stays known. -/
structure Leads (M M' : ResourceId → Prop) (s s' : Session N) : Prop where
  remoteId : ∀ id, s.remoteId = some id → s'.remoteId = some id
  registered : ∀ id, s.node.Registered id → s'.node.Registered id
  gone : ∀ id, s.node.Gone id → s'.node.Gone id
  marked : ∀ id, M id → M' id
  returned : s'.stage.isReturned = false → s.stage.isReturned = false

omit [NeZero N] in
theorem Fits.mono {command : WakerCommand} (h : Fits c s command) (hleads : Leads M M' s s') :
    Fits c s' command where
  connect hcb := by
    obtain ⟨id, hid, hcommand⟩ := h.connect hcb
    exact ⟨id, hleads.remoteId id hid, hcommand⟩
  isReady k hcb := by
    obtain ⟨id, hid, hcommand, hregistered⟩ := h.isReady k hcb
    exact ⟨id, hleads.remoteId id hid, hcommand, hleads.registered id hregistered⟩

omit [NeZero N] in
theorem FitsReply.mono {cb : Callback} {reply : Reply} (h : FitsReply c M s cb reply)
    (hleads : Leads M M' s s') : FitsReply c M' s' cb reply where
  connect hcb := by
    obtain ⟨endpoint, addr, hid, hreply⟩ := h.connect hcb
    exact ⟨endpoint, addr, hleads.remoteId _ hid, hreply⟩
  isReady k hcb := by
    obtain ⟨id, answer, hid, hreply, hnone, htrue⟩ := h.isReady k hcb
    exact ⟨id, answer, hleads.remoteId id hid, hreply, fun h ↦ hleads.gone id (hnone h),
      fun h hreturned ↦ hleads.marked id (htrue h (hleads.returned hreturned))⟩

/-- **Every closure of the call is where it should be.** -/
structure Carried (c : Call) (M : ResourceId → Prop) (s : Session N) : Prop where
  queued : ∀ m, ∀ p ∈ (s.node.muxes m).queue, Fits c s p.command
  posted : ∀ m id command, .effect (.post id command) ∈ (s.node.muxes m).phase.pending →
    Fits c s command
  called : ∀ m cb reply, .effect (.call cb reply) ∈ (s.node.muxes m).phase.pending →
    FitsReply c M s cb reply
  history : ∀ m cb reply, .called m cb reply ∈ s.node.history → FitsReply c M s cb reply

omit [NeZero N] in
theorem Carried.mono (h : Carried c M s) (hnode : s'.node = s.node) (hleads : Leads M M' s s') :
    Carried c M' s' where
  queued m p hp := (h.queued m p (hnode ▸ hp)).mono hleads
  posted m id command he := (h.posted m id command (hnode ▸ he)).mono hleads
  called m cb reply he := (h.called m cb reply (hnode ▸ he)).mono hleads
  history m cb reply hmem := (h.history m cb reply (hnode ▸ hmem)).mono hleads

/-- What is known of the node. -/
structure Known (transports : List Transport) (s : Node N) : Prop where
  routes : s.Routes
  tokens : s.Tokens
  owned : s.Owned transports
  homes : s.Homes transports

theorem known_new (transports : List Transport) : Known transports (Node.new N) :=
  ⟨routes_new, tokens_new, owned_new transports, homes_new transports⟩

theorem Known.step {s s' : Node N} {b : Step N} (h : Known transports s)
    (huses : s.UsesHandler b) (hs : s.step transports b = some s') : Known transports s' :=
  ⟨h.routes.step huses hs, h.tokens.step h.routes huses hs,
    h.owned.step h.routes h.tokens huses hs, h.homes.step h.routes huses hs⟩

/-- What a worker says that is asked for a remote that has been registered. -/
theorem isReady_answer {s : Node N} {m : Ctl N} {cb : Callback} {id : ResourceId}
    {reply : Reply} {env : CommandEnv} (hknown : Known transports s) (hm : m = workerOf id)
    (hpending : (s.muxes m).phase.pending = []) (hregistered : s.Registered id)
    (he : .call cb reply ∈ (processCommand transports (s.muxes m).processors
      (.isReady id cb) env).effects) :
    ∃ answer, reply = .isReady answer ∧ (answer = none → s.Absent id) ∧
      (answer = some true → s.LiveRemote id true) := by
  subst hm
  have hget : ∃ t, getProcessor transports id = .ok t := by
    obtain ⟨m', t, a, ha, rfl⟩ := hregistered
    exact ⟨t, (hknown.owned.registered m' t a ha).2⟩
  obtain ⟨t, hget⟩ := hget
  rw [processCommand, hget] at he
  cases List.mem_singleton.1 he
  refine ⟨_, rfl, fun hnone ↦ hknown.owned.absent hget hpending ?_, fun htrue ↦ ?_⟩
  · rw [Driver.processIsReady] at hnone
    cases htype : id.resourceType <;> rw [htype] at hnone <;> exact Option.map_eq_none_iff.1 hnone
  · cases htype : id.resourceType with
    | «local» => cases (hknown.homes.answer_local htype t).symm.trans htrue
    | remote =>
        rw [Driver.processIsReady, htype] at htrue
        exact (hknown.homes.liveRemote_iff hget true).2 htrue

omit [NeZero N] in
/-- Setting up a connection calls nothing: if it fails, its callback is dropped. -/
theorem no_call_connect {ps : Processors} {config : ConnectConfig} {id : ResourceId}
    {raddr : RemoteAddr} {cb cb' : Callback} {reply : Reply} {env : CommandEnv} :
    .call cb' reply ∉ (processCommand transports ps (.connect config id raddr cb) env).effects := by
  intro he
  have hspec : (processCommand transports ps (.connect config id raddr cb) env).Satisfies
      (fun e ↦ ∃ id c, e = .post id c) (fun _ ↦ True) (fun _ ↦ True) := by
    refine getProcessor_spec.bind fun t _ ↦ Proc.Satisfies.bind (Q := fun _ ↦ True) ?_ fun _ _ ↦
      .of_pure trivial
    refine Proc.Satisfies.bind (Q := fun _ ↦ True) (.of_ofExcept (fun _ _ ↦ trivial)
      fun _ _ ↦ trivial) fun ret _ ↦ ?_
    cases ret with
    | error err => exact .of_pure trivial
    | ok ret => exact .of_effect ⟨_, _, rfl⟩ trivial
  obtain ⟨_, _, heq⟩ := hspec.effects _ he
  cases heq

omit [NeZero N] in
/-- The callback of a connection is called with the endpoint that is registered. -/
theorem call_of_arrival {ps : Processors} {command : WakerCommand} {arrival : Arrival}
    (harrival : command.arrival = some arrival) {cb : Callback} {reply : Reply} {env : CommandEnv}
    (he : .call cb reply ∈ (processCommand transports ps command env).effects) :
    ∃ endpoint addr, endpoint.resourceId = arrival.id ∧
      reply = .connect (.ok (endpoint, addr)) := by
  have hcarries : command.carries = some cb :=
    (processCommand_callsOnly ..).effects _ he cb reply rfl
  cases command with
  | connectRegisterRemote localAddr remotePair stream payload cb' =>
      cases harrival
      rcases processCommand_connectRegister transports ps localAddr remotePair stream
        payload cb' env
        with ⟨x, hhalt⟩ | ⟨ps', hok⟩
      · rw [hhalt] at he
        cases he
      · rw [hok] at he
        cases List.mem_singleton.1 he
        exact ⟨_, _, rfl, rfl⟩
  | acceptRegisterRemote localPair remotePair stream payload => cases hcarries
  | _ => cases harrival

/-- **A thread of the node** hands the closures on as it should. -/
theorem Carried.stepMux {m : Ctl N} {a : Answers} (h : Carried c M s)
    (hknown : Known transports s.node) (hs : MuxStep transports s.node m a s'.node)
    (hleads : Leads M M' s s')
    (hlive : ∀ id, s.node.LiveRemote id true → s'.stage.isReturned = false → M' id) :
    Carried c M' s' where
  queued m' p hp := by
    rcases hs.mem_queue hp with hp | ⟨id, hpending, -, -⟩
    · exact (h.queued m' p hp).mono hleads
    · exact (h.posted m id p.command hpending).mono hleads
  posted m' id command he := by
    rcases hs.mem_pending he with he | ⟨rfl, p, hp, he⟩
    · exact (h.posted m' id command he).mono hleads
    · constructor
      · intro hcb
        obtain ⟨post, hpost, config, raddr, a, hconnect, harrival, hid⟩ := hp.posts he hcb
        obtain ⟨id', hid', hcommand⟩ := (h.queued _ post hpost).connect (hconnect ▸ rfl)
        refine ⟨id', hleads.remoteId id' hid', .inr ⟨a, harrival, hid.trans ?_⟩⟩
        rw [hconnect] at hcommand
        rcases hcommand with ⟨_, _, _, heq⟩ | ⟨_, heq, -⟩
        · cases heq
          rfl
        · cases heq
      · intro k hcb
        obtain ⟨post, hpost, config, raddr, a, hconnect, -, -⟩ := hp.posts he hcb
        obtain ⟨id', -, ⟨_, heq⟩, -⟩ := (h.queued _ post hpost).isReady k (hconnect ▸ rfl)
        cases hconnect.symm.trans heq
  called m' cb reply he := by
    rcases hs.mem_pending he with he | ⟨rfl, p, hp, he⟩
    · exact (h.called m' cb reply he).mono hleads
    · obtain ⟨post, hpost, hcarries, hpending, env, rfl⟩ := hp.calls he
      have hfits : Fits c s post.command := h.queued _ post hpost
      constructor
      · rintro rfl
        obtain ⟨id, hid, ⟨config, raddr, cb, hconnect⟩ | ⟨arrival, harrival, rfl⟩⟩ :=
          hfits.connect hcarries
        · rw [hconnect] at he
          exact absurd he no_call_connect
        · obtain ⟨endpoint, addr, hendpoint, hreply⟩ := call_of_arrival harrival he
          exact ⟨endpoint, addr, hendpoint ▸ hleads.remoteId _ hid, hreply⟩
      · rintro k rfl
        obtain ⟨id, hid, ⟨cb, hcommand⟩, hregistered⟩ := hfits.isReady k hcarries
        have hm : m' = workerOf id := by
          have hhomed : Homed m' post.command := hknown.homes.queued m' post hpost
          rw [hcommand] at hhomed
          exact hhomed
        rw [hcommand] at hcarries he
        cases hcarries
        obtain ⟨answer, hreply, hnone, htrue⟩ := isReady_answer hknown hm hpending hregistered he
        exact ⟨id, answer, hleads.remoteId id hid, hreply,
          fun h ↦ hleads.gone id ⟨hnone h, hregistered⟩, fun h ↦ hlive id (htrue h)⟩
  history m' cb reply hmem := by
    obtain ⟨later, hhistory, hlater⟩ := hs.history
    rw [hhistory] at hmem
    rcases List.mem_append.1 hmem with hmem | hmem
    · exact (h.called m cb reply (hlater.called m' cb reply hmem)).mono hleads
    · exact (h.history m' cb reply hmem).mono hleads

omit [NeZero N] in
/-- No thread moves, and what is posted is as it should be. -/
theorem Carried.of_quiet (h : Carried c M s) (hleads : Leads M M' s s')
    (hqueue : ∀ m, ∀ p ∈ (s'.node.muxes m).queue,
      p ∈ (s.node.muxes m).queue ∨ Fits c s' p.command)
    (hphase : ∀ m, (s'.node.muxes m).phase = (s.node.muxes m).phase)
    (hhistory : ∀ m cb reply, .called m cb reply ∈ s'.node.history →
      .called m cb reply ∈ s.node.history) : Carried c M' s' where
  queued m p hp := (hqueue m p hp).elim (fun hp ↦ (h.queued m p hp).mono hleads) fun hfits ↦ hfits
  posted m id command he := by
    rw [hphase m] at he
    exact (h.posted m id command he).mono hleads
  called m cb reply he := by
    rw [hphase m] at he
    exact (h.called m cb reply he).mono hleads
  history m cb reply hmem := (h.history m cb reply (hhistory m cb reply hmem)).mono hleads

/-- **So does every step of the node.** -/
theorem Carried.step {b : Step N} (h : Carried c M s) (hknown : Known transports s.node)
    (hs : s.node.step transports b = some s'.node) (hleads : Leads M M' s s')
    (hlive : ∀ id, s.node.LiveRemote id true → s'.stage.isReturned = false → M' id)
    (hposts : ∀ m command, b = .enqueue m command → Fits c s' command) : Carried c M' s' := by
  generalize hnode : s'.node = node at hs
  cases b with
  | generate resourceType t =>
      rw [Node.step] at hs
      split at hs
      · cases hs
        refine h.of_quiet hleads ?_ ?_ ?_ <;> rw [hnode] <;> cases resourceType
        · exact fun _ _ hp ↦ .inl hp
        · exact fun _ _ hp ↦ .inl hp
        · exact fun _ ↦ rfl
        · exact fun _ ↦ rfl
        · exact fun _ _ _ hmem ↦ hmem
        · exact fun _ _ _ hmem ↦ hmem
      · cases hs
  | enqueue m command =>
      cases hs
      refine h.of_quiet hleads (fun m' p hp ↦ ?_) (fun m' ↦ ?_) fun m' cb reply hmem ↦ ?_
      · rw [hnode] at hp
        rcases mem_queue_enqueue hp with hp | ⟨-, rfl⟩
        · exact .inl hp
        · exact .inr (hposts m command rfl)
      · rw [hnode]
        exact phase_enqueue command m'
      · rw [hnode] at hmem
        exact hmem
  | wake m =>
      rw [Node.step] at hs
      split at hs
      · cases hs
        refine h.of_quiet hleads (fun m' p hp ↦ .inl ?_) (fun m' ↦ ?_) fun m' cb reply hmem ↦ ?_
        · rw [hnode] at hp
          exact mem_queue_update hp muxes_wake fun _ hp ↦ hp
        · rw [hnode]
          exact phase_wake m'
        · rw [hnode] at hmem
          exact hmem
      · cases hs
  | stop =>
      cases hs
      refine h.of_quiet hleads ?_ ?_ ?_ <;> rw [hnode]
      · exact fun _ _ hp ↦ .inl hp
      · exact fun _ ↦ rfl
      · rintro m cb reply hmem
        rcases List.mem_cons.1 hmem with hmem | hmem
        · cases hmem
        · exact hmem
  | mux m a =>
      subst hnode
      exact h.stepMux hknown (stepMux_cases hs) hleads hlive

/-! ## What the call has seen -/

/-- What holds at each stage of the call. -/
structure Staged (M : ResourceId → Prop) (s : Session N) : Prop where
  start : s.stage = .start → s.remoteId = none
  holds : s.stage = .connecting → ∀ id, s.remoteId = some id →
    id ∈ s.node.held ∧ id.resourceType = .remote
  names : ∀ endpoint, s.stage.endpoint = some endpoint →
    s.remoteId = some endpoint.resourceId ∧ s.node.Registered endpoint.resourceId
  refused : ∀ err before, s.stage = .returned (.error err) before → ∃ id, s.remoteId = some id ∧
    s.node.Gone id ∧ ∃ later, s.node.history = later ++ before ∧ QuietAbout id later
  ready : ∀ endpoint addr before, s.stage = .returned (.ok (endpoint, addr)) before →
    M endpoint.resourceId

/-- **The invariant of a call.** -/
structure Inv (c : Call) (transports : List Transport) (M : ResourceId → Prop) (s : Session N) :
    Prop where
  known : Known transports s.node
  carried : Carried c M s
  staged : Staged M s

theorem inv_new (c : Call) (transports : List Transport) (M : ResourceId → Prop) :
    Inv c transports M (new N) where
  known := known_new transports
  carried := ⟨fun _ _ h ↦ absurd h List.not_mem_nil, fun _ _ _ h ↦ absurd h List.not_mem_nil,
    fun _ _ _ h ↦ absurd h List.not_mem_nil, fun _ _ _ h ↦ absurd h List.not_mem_nil⟩
  staged := ⟨fun _ ↦ rfl, by rintro ⟨⟩, by rintro _ ⟨⟩, by rintro _ _ ⟨⟩, by rintro _ _ _ ⟨⟩⟩

/-- A step of the node that leaves the call as far as it was keeps what is known. -/
theorem leads_of_step {b : Step N} (htokens : s.node.Tokens)
    (hs : s.node.step transports b = some s'.node)
    (hremoteId : ∀ id, s.remoteId = some id → s'.remoteId = some id)
    (hM : ∀ id, M id → M' id)
    (hreturned : s'.stage.isReturned = false → s.stage.isReturned = false) :
    Leads M M' s s' where
  remoteId := hremoteId
  registered id h := by
    obtain ⟨later, hhistory⟩ := history_step hs
    exact h.mono hhistory
  gone id h := (h.step htokens hs).1
  marked := hM
  returned := hreturned

omit [NeZero N] in
/-- The node is as it was. -/
theorem leads_of_same (hnode : s'.node = s.node)
    (hremoteId : ∀ id, s.remoteId = some id → s'.remoteId = some id) (hM : ∀ id, M id → M' id)
    (hreturned : s'.stage.isReturned = false → s.stage.isReturned = false) :
    Leads M M' s s' where
  remoteId := hremoteId
  registered _ h := hnode ▸ h
  gone _ h := hnode ▸ h
  marked := hM
  returned := hreturned

/-- The node takes a step, and the call does not come further. -/
theorem Staged.step {node : Node N} {waking : Option (Ctl N)} {b : Step N} (h : Staged M s)
    (htokens : s.node.Tokens) (hs : s.node.step transports b = some node)
    (hM : ∀ id, M id → M' id)
    (hposted : ∀ m c, b = .enqueue m c → ∀ id, s.remoteId = some id → postedId c ≠ some id) :
    Staged M' { s with node, waking } where
  start := h.start
  holds hstage id hid := by
    obtain ⟨hheld, htype⟩ := h.holds hstage id hid
    exact ⟨mem_held_step hheld (fun m c hb ↦ hposted m c hb id hid) hs, htype⟩
  names endpoint hendpoint := by
    obtain ⟨hid, hregistered⟩ := h.names endpoint hendpoint
    obtain ⟨later, hhistory⟩ := history_step hs
    exact ⟨hid, hregistered.mono hhistory⟩
  refused err before hstage := by
    obtain ⟨id, hid, hgone, later, hlater, hquiet⟩ := h.refused err before hstage
    obtain ⟨hgone', later', hhistory, hquiet'⟩ := hgone.step htokens hs
    refine ⟨id, hid, hgone', later' ++ later, ?_, hquiet'.append hquiet⟩
    rw [List.append_assoc, ← hlater]
    exact hhistory
  ready endpoint addr before hstage := hM _ (h.ready endpoint addr before hstage)

/-- The node takes a step of which the call knows nothing, or a wake of the call. -/
theorem Inv.step_node {node : Node N} {waking : Option (Ctl N)} {b : Step N}
    (h : Inv c transports M s) (huses : s.node.UsesHandler b)
    (hs : s.node.step transports b = some node)
    (hposts : ∀ m command, b = .enqueue m command → (∀ i, command.callback ≠ some (c.closure i)) ∧
      ∀ id, s.remoteId = some id → postedId command ≠ some id)
    (hM : ∀ id, M id → M' id)
    (hlive : ∀ id, s.node.LiveRemote id true → s.stage.isReturned = false → M' id) :
    Inv c transports M' { s with node, waking } where
  known := h.known.step huses hs
  carried := by
    refine h.carried.step h.known hs
      (leads_of_step h.known.tokens hs (fun _ hid ↦ hid) hM fun hreturned ↦ hreturned) hlive ?_
    rintro m command rfl
    have hcallback := (hposts m command rfl).1
    have hcarries : command.carries = command.callback := by
      cases command with
      | connectRegisterRemote localAddr remotePair stream payload cb => exact huses.elim
      | _ => rfl
    rw [← hcarries] at hcallback
    exact ⟨fun hcb ↦ absurd hcb (hcallback 0), fun k hcb ↦ absurd hcb (hcallback (k + 1))⟩
  staged := h.staged.step h.known.tokens hs hM fun m command hb ↦ (hposts m command hb).2

/-! ## The steps of the call -/

omit [NeZero N] in
/-- What the call reads of a closure has been recorded. -/
theorem called_of_reply {h : History N} {cb : Callback} {r : Reply} (hr : reply h cb = some r) :
    ∃ m, .called m cb r ∈ h := by
  obtain ⟨entry, hentry, hr⟩ := List.exists_of_findSome?_eq_some hr
  cases entry with
  | called m cb' r' =>
      change (if cb' = cb then some r' else none) = some r at hr
      by_cases hcb : cb' = cb
      · subst hcb
        rw [if_pos rfl] at hr
        cases hr
        exact ⟨m, hentry⟩
      · rw [if_neg hcb] at hr
        cases hr
  | _ => cases hr

/-- The call posts a command of its own. -/
theorem Inv.post {m : Ctl N} {command : WakerCommand} {stage : Stage N} (h : Inv c transports M s)
    (hs : s.post transports m command stage = some s') (hposts : s.node.Posts m command)
    (hM : ∀ id, M id → M' id)
    (hlive : ∀ id, s.node.LiveRemote id true → s.stage.isReturned = false → M' id)
    (hstart : s.stage.isReturned = false)
    (hfits : (∀ id, s.node.Registered id → s'.node.Registered id) → s'.remoteId = s.remoteId →
      Fits c s' command)
    (hstaged : (∀ id, s.node.Registered id → s'.node.Registered id) → s'.remoteId = s.remoteId →
      s'.stage = stage → Staged M' s') : Inv c transports M' s' := by
  obtain ⟨node, hnode, rfl⟩ := Option.map_eq_some_iff.1 hs
  have hleads : Leads M M' s { s with node, waking := some m, stage } :=
    leads_of_step h.known.tokens hnode (fun _ hid ↦ hid) hM fun _ ↦ hstart
  have huses : s.node.UsesHandler (.enqueue m command) := hposts
  refine ⟨h.known.step huses hnode, ?_, hstaged hleads.registered rfl rfl⟩
  refine h.carried.step h.known hnode hleads (fun id hl _ ↦ hlive id hl hstart) ?_
  rintro m' command' heq
  cases heq
  exact hfits hleads.registered rfl

/-- The call gets its id. -/
theorem Inv.start {node : Node N} {waking : Option (Ctl N)} (h : Inv c transports M s)
    (hstage : s.stage = .start)
    (hnode : s.node.step transports (.generate .remote c.transport) = some node)
    (hM : ∀ id, M id → M' id)
    (hlive : ∀ id, s.node.LiveRemote id true → s.stage.isReturned = false → M' id) :
    Inv c transports M'
      ⟨node, waking, (s.node.rgen.generate c.transport.id).1, .connecting⟩ := by
  have hnone := h.staged.start hstage
  have hreturned : s.stage.isReturned = false := hstage ▸ rfl
  have huses : s.node.UsesHandler (.generate .remote c.transport) := trivial
  refine ⟨h.known.step huses hnode, ?_, by rintro ⟨⟩, fun _ id hid ↦ ?_, by rintro _ ⟨⟩,
    by rintro _ _ ⟨⟩, by rintro _ _ _ ⟨⟩⟩
  · refine h.carried.step h.known hnode
      (leads_of_step h.known.tokens hnode (fun id hid ↦ ?_) hM fun _ ↦ hreturned)
      (fun id hl _ ↦ hlive id hl hreturned) (by rintro m command ⟨⟩)
    cases hnone.symm.trans hid
  · rw [Node.step] at hnode
    split at hnode
    · cases hnode
      refine ⟨List.mem_append_left _ (Option.mem_toList.2 hid), ?_⟩
      exact (ResourceIdGenerator.generate_some hid).1.trans h.known.routes.rgen
    · cases hnode

/-- The call goes on, or returns, and the node is as it was. -/
theorem Inv.same {waking : Option (Ctl N)} {stage : Stage N} (h : Inv c transports M s)
    (hM : ∀ id, M id → M' id) (hreturned : s.stage.isReturned = false)
    (hstaged : Staged M' { s with waking, stage }) :
    Inv c transports M' { s with waking, stage } :=
  ⟨h.known, h.carried.mono rfl (leads_of_same rfl (fun _ hid ↦ hid) hM fun _ ↦ hreturned), hstaged⟩

/-- The callback of the connect has been called: it has named the remote. -/
theorem Inv.awaiting {r : Reply} (h : Inv c transports M s)
    (hr : reply s.node.history (c.closure 0) = some r) :
    ∃ endpoint addr, r = .connect (.ok (endpoint, addr)) ∧
      s.remoteId = some endpoint.resourceId ∧ s.node.Registered endpoint.resourceId := by
  obtain ⟨m, hcalled⟩ := called_of_reply hr
  obtain ⟨endpoint, addr, hid, rfl⟩ := (h.carried.history m _ r hcalled).connect rfl
  refine ⟨endpoint, addr, rfl, hid, h.known.owned.of_taught ?_⟩
  exact List.any_eq_true.2 ⟨_, hcalled, decide_eq_true rfl⟩

/-- A question of the call has been answered. -/
theorem Inv.asking {endpoint : Endpoint} {addr : SocketAddr} {k : Nat} {r : Reply}
    (h : Inv c transports M s) (hstage : s.stage = .asking endpoint addr k)
    (hr : reply s.node.history (c.closure (k + 1)) = some r) :
    ∃ answer, r = .isReady answer ∧ (answer = none → s.node.Gone endpoint.resourceId) ∧
      (answer = some true → M endpoint.resourceId) := by
  obtain ⟨m, hcalled⟩ := called_of_reply hr
  obtain ⟨id, answer, hid, rfl, hnone, htrue⟩ := (h.carried.history m _ r hcalled).isReady k rfl
  have hid' := (h.staged.names endpoint (hstage ▸ rfl)).1
  cases hid.symm.trans hid'
  exact ⟨answer, rfl, hnone, fun hanswer ↦ htrue hanswer (hstage ▸ rfl)⟩

/-- **Every step of the call keeps the invariant**, but for the one that gives up. -/
theorem Inv.advance (h : Inv c transports M s) (hretries : s.HasRetries .advance)
    (hs : s.advance transports c = some s') (hM : ∀ id, M id → M' id)
    (hlive : ∀ id, s.node.LiveRemote id true → s.stage.isReturned = false → M' id) :
    Inv c transports M' s' := by
  rw [Session.advance] at hs
  cases hwaking : s.waking with
  | some m =>
      have huses : s.node.UsesHandler (.wake m) := trivial
      rw [hwaking] at hs
      obtain ⟨node, hnode, rfl⟩ := Option.map_eq_some_iff.1 hs
      exact h.step_node huses hnode (by rintro m' command ⟨⟩) hM hlive
  | none =>
      simp only [hwaking] at hs
      cases hstage : s.stage with
      | start =>
          rw [hstage] at hs
          obtain ⟨node, hnode, rfl⟩ := Option.map_eq_some_iff.1 hs
          exact h.start hstage hnode hM hlive
      | connecting =>
          rw [hstage] at hs
          obtain ⟨id, hid, hpost⟩ := Option.bind_eq_some_iff.1 hs
          obtain ⟨hheld, htype⟩ := h.staged.holds hstage id hid
          refine h.post hpost ⟨rfl, hheld, htype⟩ hM hlive (hstage ▸ rfl) (fun _ hsame ↦ ?_)
            fun _ _ hawaiting ↦ ?_
          · refine ⟨fun _ ↦ ⟨id, hsame.trans hid, .inl ⟨_, _, _, rfl⟩⟩, fun k hcb ↦ ?_⟩
            cases c.closure_injective (Option.some.inj hcb)
          · constructor <;> simp [hawaiting, Stage.endpoint]
      | awaiting =>
          rw [hstage] at hs
          cases hr : reply s.node.history (c.closure 0) with
          | none =>
              simp only [hr] at hs
              cases hs
          | some r =>
              obtain ⟨endpoint, addr, rfl, hnames⟩ := h.awaiting hr
              simp only [hr] at hs
              cases hs
              refine h.same hM (hstage ▸ rfl) ?_
              constructor <;> simp [Stage.endpoint, hnames]
      | polling endpoint addr k =>
          obtain ⟨hid, hregistered⟩ := h.staged.names endpoint (hstage ▸ rfl)
          cases k with
          | zero => exact absurd hstage (hretries endpoint addr)
          | succ k =>
              rw [hstage] at hs
              refine h.post hs rfl hM hlive (hstage ▸ rfl) (fun hmono hsame ↦ ?_)
                fun hmono hsame hasking ↦ ?_
              · refine ⟨fun hcb ↦ ?_, fun j _ ↦ ?_⟩
                · cases c.closure_injective (Option.some.inj hcb)
                · exact ⟨_, hsame.trans hid, ⟨_, rfl⟩, hmono _ hregistered⟩
              · have hnames : s'.remoteId = some endpoint.resourceId ∧
                    s'.node.Registered endpoint.resourceId :=
                  ⟨hsame.trans hid, hmono _ hregistered⟩
                constructor <;> simp [hasking, Stage.endpoint, hnames]
      | asking endpoint addr k =>
          have hnames := h.staged.names endpoint (hstage ▸ rfl)
          rw [hstage] at hs
          cases hr : reply s.node.history (c.closure (k + 1)) with
          | none =>
              simp only [hr] at hs
              cases hs
          | some r =>
              obtain ⟨answer, rfl, hnone, htrue⟩ := h.asking hstage hr
              simp only [hr] at hs
              rcases answer with _ | _ | _
              · cases hs
                refine h.same hM (hstage ▸ rfl) ?_
                constructor
                · rintro ⟨⟩
                · rintro ⟨⟩
                · rintro endpoint' ⟨⟩
                · rintro err before ⟨⟩
                  exact ⟨_, hnames.1, hnone rfl, [], rfl,
                    fun _ _ hmem ↦ absurd hmem List.not_mem_nil⟩
                · rintro endpoint' addr' before ⟨⟩
              · cases hs
                refine h.same hM (hstage ▸ rfl) ?_
                constructor <;> simp [Stage.endpoint, hnames]
              · cases hs
                refine h.same hM (hstage ▸ rfl) ?_
                constructor
                · rintro ⟨⟩
                · rintro ⟨⟩
                · rintro endpoint' ⟨⟩
                  exact hnames
                · rintro err before ⟨⟩
                · rintro endpoint' addr' before ⟨⟩
                  exact hM _ (htrue rfl)
      | returned ret before =>
          rw [hstage] at hs
          cases hs

/-! ## Whole runs -/

/-- A step of a run in which the call does not run out of retries. -/
def Patient (c : Call) (s : Session N) (b : Move N) : Prop := s.Allowed c b ∧ s.HasRetries b

/-- The remote of this id was ready at a time when the call had not returned. -/
def WasReady (c : Call) (transports : List Transport) (s : Session N) (id : ResourceId) : Prop :=
  ∃ earlier : Session N, Transition.Reach (step c transports) (Patient c) (new N) earlier ∧
    Transition.Reach (step c transports) (Patient c) earlier s ∧
      earlier.stage.isReturned = false ∧ earlier.node.LiveRemote id true

/-- **What a call leaves behind when it has returned.**  After an error its remote is registered
nowhere, and the user is told nothing more about it; after `Ok` its remote has been ready. -/
structure LeavesNothing (c : Call) (transports : List Transport) (s : Session N) : Prop where
  error : ∀ err before, s.stage = .returned (.error err) before → ∃ id, s.remoteId = some id ∧
    (∀ m t, ((s.node.muxes m).processors t).remote id = none) ∧
      ∃ later, s.node.history = later ++ before ∧ QuietAbout id later
  ok : ∀ endpoint addr before, s.stage = .returned (.ok (endpoint, addr)) before →
    s.remoteId = some endpoint.resourceId ∧ s.WasReady c transports endpoint.resourceId

theorem Inv.step {b : Move N} (h : Inv c transports M s) (hok : s.Patient c b)
    (hs : s.step c transports b = some s') (hM : ∀ id, M id → M' id)
    (hlive : ∀ id, s.node.LiveRemote id true → s.stage.isReturned = false → M' id) :
    Inv c transports M' s' := by
  cases b with
  | advance => exact h.advance hok.2 hs hM hlive
  | other b =>
      obtain ⟨node, hnode, rfl⟩ := Option.map_eq_some_iff.1 hs
      exact h.step_node hok.1.1 hnode hok.1.2 hM hlive

theorem inv_of_reach (h : Transition.Reach (step c transports) (Patient c) (new N) s) :
    Inv c transports (s.WasReady c transports) s := by
  induction h with
  | refl => exact inv_new c transports _
  | @tail s s' b h hok hs ih =>
      refine ih.step hok hs ?_ fun id hlive hreturned ↦ ⟨s, h, .tail .refl hok hs, hreturned, hlive⟩
      rintro id ⟨earlier, hearlier, hlater, hready⟩
      exact ⟨earlier, hearlier, hlater.tail hok hs, hready⟩

/-- **A call that does not run out of retries leaves nothing behind.** -/
theorem connect_sync_leaves_nothing (c : Call) (transports : List Transport)
    (h : Transition.Reach (step c transports) (Patient c) (new N) s) :
    s.LeavesNothing c transports := by
  have hinv := inv_of_reach h
  constructor
  · intro err before hstage
    obtain ⟨id, hid, hgone, hquiet⟩ := hinv.staged.refused err before hstage
    exact ⟨id, hid, hgone.nowhere, hquiet⟩
  · intro endpoint addr before hstage
    exact ⟨(hinv.staged.names endpoint (hstage ▸ rfl)).1,
      hinv.staged.ready endpoint addr before hstage⟩

/-! ## Two calls -/

/-- A call that connects to a TCP peer. -/
def tcpCall : Call := ⟨.default, .tcp, .socket (.localhost 80), 0⟩

/-- Its remote. -/
def peer : Endpoint := ⟨⟨⟨1⟩⟩, .localhost 80⟩

/-- The next thing that the worker does, when all goes well. -/
def work (batch : List PollEvent) : Move 1 := .other (.mux (.worker 0) (.quiet batch))

/-- The next thing that the worker does, when the peer refuses. -/
def workRefused : Move 1 := .other (.mux (.worker 0) { Answers.quiet [] with
  pending := { PendingEnv.connectedTo (.localhost 80) with
    takeError := .ok (some ⟨.other, none⟩) } })

/-- The call posts the connect; the master sets it up and the worker registers it; the call
learns of it, and the worker comes to rest. -/
def tillNamed : List (Move 1) :=
  [.advance, .advance, .advance] ++ (masterConnects.tail ++ workerRegisters).map .other ++
    [.advance, work [], work []]

/-- The call asks, and the worker answers and comes to rest. -/
def question : List (Move 1) :=
  [.advance, .advance, work [], work [.waker], work [], work [], work [], work [], work []]

/-- Steps of the worker, and of a call that has retries left. -/
def patiently (s : Session 1) : Move 1 → Bool
  | .advance =>
      match s.stage with
      | .polling _ _ 0 => false
      | _ => true
  | .other (.mux _ _) => true
  | .other _ => false

theorem patient_of_patiently (s : Session 1) (b : Move 1) (h : s.patiently b = true) :
    s.Patient c b := by
  cases b with
  | advance =>
      refine ⟨trivial, fun endpoint addr hstage ↦ ?_⟩
      rw [patiently, hstage] at h
      cases h
  | other b =>
      cases b with
      | mux m a => exact ⟨⟨trivial, by rintro m command ⟨⟩⟩, trivial⟩
      | _ => cases h

/-- A call whose peer refuses is told so, and its remote is gone. -/
theorem connect_sync_refused : ∃ s : Session 1, ∃ before,
    s.stage = .returned (.error .connectionRefused) before ∧
      .emitted (.worker 0) (.network (.connected peer false)) ∈ before ∧
        s.LeavesNothing tcpCall [.tcp] := by
  have hrun : ∃ s : Session 1, ∃ before, Transition.run
      (fun s b ↦ if s.patiently b then step tcpCall [.tcp] s b else none) (new 1)
        (tillNamed ++ [work [], work [.networkWrite peer.resourceId], workRefused, work [],
          work []] ++ question ++ [.advance]) = some s ∧
      s.stage = .returned (.error .connectionRefused) before ∧
        .emitted (.worker 0) (.network (.connected peer false)) ∈ before := by
    refine ⟨_, _, rfl, rfl, ?_⟩
    iterate 2 apply List.mem_cons_of_mem
    exact List.mem_cons_self
  obtain ⟨s, before, hrun, hstage, hemitted⟩ := hrun
  exact ⟨s, before, hstage, hemitted,
    connect_sync_leaves_nothing tcpCall [.tcp] (.of_checked_run patient_of_patiently hrun)⟩

/-! ## A connection that is denied and then made -/

/-- The worker, when it has registered the peer. -/
def worker (queue : List Post) (φ : Phase 1) : Mux 1 where
  queue := queue
  woken := false
  phase := φ
  processors := Function.update Processors.new .tcp (Driver.withRemote .new
    ⟨peer.resourceId, ⟨0⟩, peer.addr, none⟩ (Tcp.RemoteResource.mk ⟨0⟩ none))
  watched := [peer.resourceId]

section

variable (muxes : Ctl 1 → Mux 1) (posters : Ctl 1 → Nat) (streams : Nat) (h : History 1)

/-- The call at a stage at which the worker is at rest. -/
def resting (stage : Stage 1) : Session 1 where
  node := { Node.new 1 with
    rgen := ⟨2, .remote⟩
    ids := [peer.resourceId]
    muxes := Function.update muxes (.worker 0) (worker [] .test)
    posters, streams, history := h }
  waking := none
  remoteId := some peer.resourceId
  stage := stage

theorem run_tillNamed : ∃ muxes posters streams h,
    Transition.run (step tcpCall [.tcp]) (new 1) tillNamed =
      some (resting muxes posters streams h (.polling peer (.localhost 80) maxRetries)) :=
  ⟨_, _, _, _, rfl⟩

theorem run_question (k : Nat) : ∃ muxes' posters' streams' h',
    Transition.run (step tcpCall [.tcp])
        (resting muxes posters streams h (.polling peer (.localhost 80) (k + 1))) question =
      some (resting muxes' posters' streams'
        (.called (.worker 0) (tcpCall.closure (k + 1)) (.isReady (some false)) :: h')
        (.asking peer (.localhost 80) k)) :=
  ⟨_, _, _, _, rfl⟩

theorem advance_answered (k : Nat) :
    (resting muxes posters streams
        (.called (.worker 0) (tcpCall.closure (k + 1)) (.isReady (some false)) :: h)
        (.asking peer (.localhost 80) k)).advance [.tcp] tcpCall =
      some (resting muxes posters streams
        (.called (.worker 0) (tcpCall.closure (k + 1)) (.isReady (some false)) :: h)
        (.polling peer (.localhost 80) k)) := by
  simp [advance, resting, reply]

/-- The call gives up, and then the peer accepts. -/
theorem run_late : ∃ s : Session 1, Transition.run (step tcpCall [.tcp])
      (resting muxes posters streams h (.polling peer (.localhost 80) 0))
      [.advance, work [], work [.networkWrite peer.resourceId], work [], work []] = some s ∧
    s.stage = .returned (.error .connectionAborted) h ∧
      s.node.history = .emitted (.worker 0) (.network (.connected peer true)) :: h ∧
        s.remoteId = some peer.resourceId ∧ s.node.LiveRemote peer.resourceId true :=
  ⟨_, rfl, rfl, rfl, rfl, .worker 0, .tcp, _, rfl, rfl⟩

end

/-- What the call can come to, whatever the number of retries. -/
abbrev Possible (s : Session 1) : Prop :=
  Transition.Reach (step tcpCall [.tcp]) (Allowed tcpCall) (new 1) s

theorem Possible.of_run {s s' : Session 1} {bs : List (Move 1)} (h : Possible s)
    (hbs : ∀ b ∈ bs, b = .advance ∨ ∃ m a, b = .other (.mux m a))
    (hrun : Transition.run (step tcpCall [.tcp]) s bs = some s') : Possible s' := by
  refine h.trans (.of_run (fun b hb s ↦ ?_) hrun)
  rcases hbs b hb with rfl | ⟨m, a, rfl⟩
  · trivial
  · exact ⟨trivial, by rintro m command ⟨⟩⟩

/-- The call can ask as often as it likes, and the peer is silent all the while. -/
theorem possible_polling (n k : Nat) {muxes : Ctl 1 → Mux 1} {posters : Ctl 1 → Nat}
    {streams : Nat} {h : History 1}
    (hs : Possible (resting muxes posters streams h (.polling peer (.localhost 80) (k + n)))) :
    ∃ muxes posters streams h,
      Possible (resting muxes posters streams h (.polling peer (.localhost 80) k)) := by
  induction n generalizing muxes posters streams h with
  | zero => exact ⟨muxes, posters, streams, h, hs⟩
  | succ n ih =>
      obtain ⟨muxes', posters', streams', h', hrun⟩ :=
        run_question muxes posters streams h (k + n)
      have hasked := hs.of_run (by simp [question, work]) hrun
      exact ih (hasked.tail (a := .advance) trivial (advance_answered ..))

/-- **A connection that the call has denied**: no answer comes in time, and then the remote
becomes ready and the user is told of it. -/
theorem denied_connection : ∃ s : Session 1, ∃ before later,
    Possible s ∧ s.stage = .returned (.error .connectionAborted) before ∧
      s.node.history = later ++ before ∧
        .emitted (.worker 0) (.network (.connected peer true)) ∈ later ∧
          s.node.LiveRemote peer.resourceId true ∧ ¬ s.LeavesNothing tcpCall [.tcp] := by
  obtain ⟨muxes, posters, streams, h, hrun⟩ := run_tillNamed
  have hnamed : Possible _ := Transition.Reach.refl.trans
    (Possible.of_run .refl (by simp [tillNamed, masterConnects, workerRegisters, work]) hrun)
  obtain ⟨muxes, posters, streams, h, hpolling⟩ := possible_polling 1000 0 hnamed
  obtain ⟨s, hrun, hstage, hhistory, hid, hlive⟩ := run_late muxes posters streams h
  refine ⟨s, h, [.emitted (.worker 0) (.network (.connected peer true))],
    hpolling.of_run (by simp [work]) hrun, hstage, hhistory, List.mem_cons_self, hlive, ?_⟩
  rintro ⟨herror, -⟩
  obtain ⟨id, hid', hnowhere, -⟩ := herror _ _ hstage
  cases hid.symm.trans hid'
  obtain ⟨m, t, r, hr, -⟩ := hlive
  cases hr.symm.trans (hnowhere m t)

end Session

end ConnectSync

end MessageIo
