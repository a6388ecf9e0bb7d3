import MessageIo.Network.RemoteSteps

/-!
# The end of a remote

A remote can be at its end in four ways: `pending` or `receive` says `Disconnected`, or
`ready_to_write` answers `false`, right after the remote became ready or in `write_to_remote`.
Then it is to be removed, and the user is to be told at most once.

No adapter of the source overrides `ready_to_write`.  Here its answers come from outside, as
those of `pending` and `receive` do, so that they may be anything.  They show what is amiss:
`resolve_pending_remote` ignores the answer, and `write_to_remote` tells of a disconnection but
removes nothing, so it tells of it again with the next event of the poll.
-/

namespace MessageIo

/-- The events that end what is told of a remote. -/
def NetEvent.isTerminal : NetEvent → Bool
  | connected _ established => !established
  | disconnected _ => true
  | _ => false

namespace Driver

variable {R L : Type}

/-- The events among some effects that end what is told of one resource. -/
def terminalsOf (id : ResourceId) (effects : List Effect) : List NetEvent :=
  (eventsOf id effects).filter NetEvent.isTerminal

/-! ## Stories end once -/

theorem Told.terminals {endpoint : Endpoint} {es : List NetEvent} (h : Told endpoint es) :
    (es.filter NetEvent.isTerminal).length ≤ 1 := by
  obtain ⟨msgs, hes⟩ := h
  have hmsgs : (msgs.map (NetEvent.message endpoint)).filter NetEvent.isTerminal = [] := by
    rw [List.filter_eq_nil_iff]
    intro e he
    obtain ⟨data, -, rfl⟩ := List.mem_map.1 he
    exact Bool.false_ne_true
  have hlength := (hes.filter NetEvent.isTerminal).length_le
  rw [List.filter_append, hmsgs] at hlength
  exact hlength

/-- **A story has at most one end.** -/
theorem Story.terminals {σ : Stage} {es : List NetEvent} (h : Story σ es) :
    (es.filter NetEvent.isTerminal).length ≤ 1 := by
  cases σ with
  | absent =>
      rw [show es = [] from h]
      exact Nat.zero_le _
  | ready endpoint => exact Told.terminals h
  | pending endpoint localId =>
      rcases h with rfl | ⟨-, rfl⟩ | ⟨rest, rfl, htold⟩
      · exact Nat.zero_le _
      · exact Nat.le_refl _
      · have hopening : (opening endpoint localId).isTerminal = false := by
          cases localId <;> rfl
        rw [List.filter_cons_of_neg (by rw [hopening]; exact Bool.false_ne_true)]
        exact htold.terminals

/-! ## Any answers -/

/-- What `ready_to_write` answers during a call, right after the remote became ready and in
`write_to_remote`. -/
structure WriteAnswers where
  resolved : Bool
  writing : Bool

/-- `write_to_remote`, if `ready_to_write` answers so. -/
def writeAnswered (endpoint : Endpoint) (answer : Bool) : Action Unit :=
  if !answer then event (.disconnected endpoint) else pure ()

section Adapter

variable [Adapter R L]

/-- `process_write`, if `ready_to_write` answers so. -/
def processWriteAnswered (d : Driver R L) (id : ResourceId) (env : PendingEnv)
    (answers : WriteAnswers) : Action (Driver R L) := do
  match id.resourceType with
  | .remote =>
      -- `answers.resolved` is not looked at
      match ← d.whenReady id env with
      | (d, some (endpoint, _)) =>
          writeAnswered endpoint answers.writing
          return d
      | (d, none) => return d
  | .local => return d

/-- A call of the driver, if `ready_to_write` answers so. -/
def callAnswered (d : Driver R L) : Call × WriteAnswers → Action (Driver R L)
  | (.write id env, answers) => d.processWriteAnswered id env answers
  | (c, _) => d.call c

/-- With the answers of the adapter, this is the call of the driver. -/
theorem callAnswered_eq {answers : WriteAnswers}
    (h : ∀ r : R, Remote.readyToWrite r = answers.writing) (d : Driver R L) (c : Call) :
    d.callAnswered (c, answers) = d.call c := by
  by_cases hwrite : ∃ id env, c = .write id env
  · obtain ⟨id, env, rfl⟩ := hwrite
    have hto : ∀ (r : Register R RemoteProperties) endpoint,
        writeToRemote r endpoint = writeAnswered endpoint answers.writing := by
      intro r endpoint
      rw [writeToRemote, h, writeAnswered]
    show d.processWriteAnswered id env answers = d.processWrite id env
    unfold processWriteAnswered processWrite
    cases id.resourceType with
    | «local» => rfl
    | remote =>
        refine congrArg (d.whenReady id env >>= ·) (funext fun out ↦ ?_)
        obtain ⟨d', endpoint | ⟨endpoint, r⟩⟩ := out
        · rfl
        · exact congrArg (· >>= fun _ ↦ pure d') (hto r endpoint).symm
  · cases c with
    | write id env => exact absurd ⟨id, env, rfl⟩ hwrite
    | _ => rfl

/-- The remote that a call registers. -/
def registersAnswered (c : Call × WriteAnswers) : Option (Endpoint × Option ResourceId) :=
  c.1.registers

variable {d d' : Driver R L} {id : ResourceId} {env : PendingEnv} {answers : WriteAnswers}

/-- What `ready_to_write` answers makes no difference to the registries. -/
theorem result_processWriteAnswered (d : Driver R L) (id : ResourceId) (env : PendingEnv)
    (answers : WriteAnswers) :
    (d.processWriteAnswered id env answers).result = (d.processWrite id env).result := by
  have hanswered : ∀ (endpoint : Endpoint) (answer : Bool),
      (writeAnswered endpoint answer).result = .ok () := by
    intro endpoint answer
    cases answer <;> rfl
  have hwrite : ∀ (r : Register R RemoteProperties) (endpoint : Endpoint),
      (writeToRemote r endpoint).result = .ok () := fun r endpoint ↦ hanswered endpoint _
  rw [processWriteAnswered, processWrite]
  cases id.resourceType with
  | «local» => rfl
  | remote =>
      cases hready : (d.whenReady id env).result with
      | error x => rw [Proc.result_bind_error hready, Proc.result_bind_error hready]
      | ok out =>
          obtain ⟨d₁, out⟩ := out
          rw [Proc.result_bind_ok hready, Proc.result_bind_ok hready]
          cases out with
          | none => rfl
          | some x =>
              simp only
              rw [Proc.result_bind_ok (hanswered _ _), Proc.result_bind_ok (hwrite _ _)]

/-! ## Ends -/

omit [Adapter R L] in
/-- What the front of a poll event makes of a remote depends on nothing else. -/
theorem Resolves.unique [Remote R] {r r₁ r₂ : Register R RemoteProperties} {there₁ there₂ : Bool}
    (h₁ : Resolves env r r₁ there₁) (h₂ : Resolves env r r₂ there₂) :
    r₁ = r₂ ∧ there₁ = there₂ := by
  cases h₁ with
  | wasReady h =>
      cases h₂ with
      | wasReady => exact ⟨rfl, rfl⟩
      | ready h' => exact nomatch h.symm.trans h'
      | incomplete h' => exact nomatch h.symm.trans h'
      | disconnected h' => exact nomatch h.symm.trans h'
  | ready h hpending =>
      cases h₂ with
      | wasReady h' => exact nomatch h.symm.trans h'
      | ready _ hpending' =>
          cases hpending.symm.trans hpending'
          exact ⟨rfl, rfl⟩
      | incomplete _ hpending' => exact nomatch hpending.symm.trans hpending'
      | disconnected _ hpending' => exact nomatch hpending.symm.trans hpending'
  | incomplete h hpending =>
      cases h₂ with
      | wasReady h' => exact nomatch h.symm.trans h'
      | ready _ hpending' => exact nomatch hpending.symm.trans hpending'
      | incomplete _ hpending' =>
          cases hpending.symm.trans hpending'
          exact ⟨rfl, rfl⟩
      | disconnected _ hpending' => exact nomatch hpending.symm.trans hpending'
  | disconnected h hpending =>
      cases h₂ with
      | wasReady h' => exact nomatch h.symm.trans h'
      | ready _ hpending' => exact nomatch hpending.symm.trans hpending'
      | incomplete _ hpending' => exact nomatch hpending.symm.trans hpending'
      | disconnected _ hpending' =>
          cases hpending.symm.trans hpending'
          exact ⟨rfl, rfl⟩

omit [Adapter R L] in
/-- A remote that `receive` leaves registered is not one that it removes. -/
theorem Reads.unique [Remote R] {reads : List ReadEnv} {r r₁ r₂ : Register R RemoteProperties}
    {data₁ data₂ : List Bytes} {there₁ there₂ : Bool} (h₁ : Reads env reads r data₁ r₁ there₁)
    (h₂ : Reads env reads r data₂ r₂ there₂) : there₁ = there₂ := by
  cases h₁ with
  | unready h hready =>
      cases h₂ with
      | unready h' => exact (h.unique h').2
      | waits h' => exact (h.unique h').2
      | leaves h' hready' =>
          cases (h.unique h').1
          exact nomatch hready.symm.trans hready'
  | waits h hready hreceive =>
      cases h₂ with
      | unready h' => exact (h.unique h').2
      | waits => rfl
      | leaves h' _ hreceive' =>
          cases (h.unique h').1
          exact nomatch hreceive.symm.trans hreceive'
  | leaves h hready hreceive =>
      cases h₂ with
      | unready h' hready' =>
          cases (h.unique h').1
          exact nomatch hready.symm.trans hready'
      | waits h' _ hreceive' =>
          cases (h.unique h').1
          exact nomatch hreceive.symm.trans hreceive'
      | leaves => rfl

/-- **An answer says that a remote is at its end**, during a call. -/
inductive Ends (d : Driver R L) : Call × WriteAnswers → ResourceId → Prop
  /-- `pending` or `receive` says `Disconnected`. -/
  | read {id : ResourceId} {env : PendingEnv} {reads : List ReadEnv} {accepts : List AcceptEnv}
      {answers : WriteAnswers} {r r' : Register R RemoteProperties} {data : List Bytes}
      (hid : id.resourceType = .remote) (hr : d.remote id = some r)
      (h : Reads env reads r data r' false) : Ends d (.read id env reads accepts, answers) id
  /-- `pending` says `Disconnected`. -/
  | write {id : ResourceId} {env : PendingEnv} {answers : WriteAnswers}
      {r r' : Register R RemoteProperties} (hid : id.resourceType = .remote)
      (hr : d.remote id = some r) (h : Resolves env r r' false) :
      Ends d (.write id env, answers) id
  /-- `ready_to_write` answers `false` right after the remote became ready. -/
  | readResolved {id : ResourceId} {env : PendingEnv} {reads : List ReadEnv}
      {accepts : List AcceptEnv} {answers : WriteAnswers} {r : Register R RemoteProperties}
      {resource : R} (hid : id.resourceType = .remote) (hr : d.remote id = some r)
      (hready : r.properties.ready = false)
      (hpending : Remote.pending r.resource env = .ok (.ready, resource))
      (hanswer : answers.resolved = false) : Ends d (.read id env reads accepts, answers) id
  | writeResolved {id : ResourceId} {env : PendingEnv} {answers : WriteAnswers}
      {r : Register R RemoteProperties} {resource : R} (hid : id.resourceType = .remote)
      (hr : d.remote id = some r) (hready : r.properties.ready = false)
      (hpending : Remote.pending r.resource env = .ok (.ready, resource))
      (hanswer : answers.resolved = false) : Ends d (.write id env, answers) id
  /-- `ready_to_write` answers `false` in `write_to_remote`. -/
  | writing {id : ResourceId} {env : PendingEnv} {answers : WriteAnswers}
      {r r' : Register R RemoteProperties} (hid : id.resourceType = .remote)
      (hr : d.remote id = some r) (h : Resolves env r r' true)
      (hready : r'.properties.ready = true) (hanswer : answers.writing = false) :
      Ends d (.write id env, answers) id

/-- **`ready_to_write` answers `false` and nothing else ends the remote**: it is a write event, or
`receive` waits for the next event. -/
inductive Overlooks (d : Driver R L) : Call × WriteAnswers → Prop
  | read {id : ResourceId} {env : PendingEnv} {reads : List ReadEnv} {accepts : List AcceptEnv}
      {answers : WriteAnswers} {r r' : Register R RemoteProperties} {resource : R}
      {data : List Bytes} (hid : id.resourceType = .remote) (hr : d.remote id = some r)
      (hready : r.properties.ready = false)
      (hpending : Remote.pending r.resource env = .ok (.ready, resource))
      (hanswer : answers.resolved = false) (h : Reads env reads r data r' true) :
      Overlooks d (.read id env reads accepts, answers)
  | write {id : ResourceId} {env : PendingEnv} {answers : WriteAnswers}
      {r : Register R RemoteProperties} {resource : R} (hid : id.resourceType = .remote)
      (hr : d.remote id = some r) (hready : r.properties.ready = false)
      (hpending : Remote.pending r.resource env = .ok (.ready, resource))
      (hanswer : answers.resolved = false) : Overlooks d (.write id env, answers)
  | writing {id : ResourceId} {env : PendingEnv} {answers : WriteAnswers}
      {r r' : Register R RemoteProperties} (hid : id.resourceType = .remote)
      (hr : d.remote id = some r) (h : Resolves env r r' true)
      (hready : r'.properties.ready = true) (hanswer : answers.writing = false) :
      Overlooks d (.write id env, answers)

/-- What a read event makes of a registered remote. -/
theorem read_becomes {reads : List ReadEnv} {accepts : List AcceptEnv}
    {r : Register R RemoteProperties} (hid : id.resourceType = .remote) (hr : d.remote id = some r)
    (h : (d.processRead id env reads accepts).result = .ok d') :
    ∃ data r' there, Reads env reads r data r' there ∧ Becomes id d d' r' there := by
  cases processRead_done h with
  | read hr₀ hreads hbecomes =>
      cases hr.symm.trans hr₀
      exact ⟨_, _, _, hreads, hbecomes⟩
  | registers hc => cases hc
  | same _ _ hidle => exact nomatch hr.symm.trans (hidle id rfl hid)

/-- What a write event makes of a registered remote. -/
theorem write_becomes {r : Register R RemoteProperties} (hid : id.resourceType = .remote)
    (hr : d.remote id = some r)
    (h : (d.processWriteAnswered id env answers).result = .ok d') :
    ∃ r' there, Resolves env r r' there ∧ Becomes id d d' r' there := by
  rw [result_processWriteAnswered] at h
  cases processWrite_done h with
  | write hr₀ hresolves hbecomes =>
      cases hr.symm.trans hr₀
      exact ⟨_, _, hresolves, hbecomes⟩
  | registers hc => cases hc
  | same _ _ hidle => exact nomatch hr.symm.trans (hidle id rfl hid)

/-- **A call removes what is at its end, unless it overlooks an answer.** -/
theorem removes_iff {c : Call × WriteAnswers} (h : (d.callAnswered c).result = .ok d') :
    (∀ id, Ends d c id → d'.remote id = none) ↔ ¬ Overlooks d c := by
  constructor
  · intro hremoves hoverlooks
    cases hoverlooks with
    | read hid hr hready hpending hanswer hreads =>
        have hnone := hremoves _ (.readResolved hid hr hready hpending hanswer)
        obtain ⟨data, r', there, hreads', hbecomes⟩ := read_becomes hid hr h
        rw [hbecomes.self, ← hreads.unique hreads'] at hnone
        cases hnone
    | write hid hr hready hpending hanswer =>
        have hnone := hremoves _ (.writeResolved hid hr hready hpending hanswer)
        obtain ⟨r', there, hresolves, hbecomes⟩ := write_becomes hid hr h
        rw [hbecomes.self, ← ((Resolves.ready hready hpending).unique hresolves).2] at hnone
        cases hnone
    | writing hid hr hresolves hready hanswer =>
        have hnone := hremoves _ (.writing hid hr hresolves hready hanswer)
        obtain ⟨r', there, hresolves', hbecomes⟩ := write_becomes hid hr h
        rw [hbecomes.self, ← (hresolves.unique hresolves').2] at hnone
        cases hnone
  · intro hnot id hends
    cases hends with
    | read hid hr hreads =>
        obtain ⟨data, r', there, hreads', hbecomes⟩ := read_becomes hid hr h
        rw [hbecomes.self, ← hreads.unique hreads']
        rfl
    | write hid hr hresolves =>
        obtain ⟨r', there, hresolves', hbecomes⟩ := write_becomes hid hr h
        rw [hbecomes.self, ← (hresolves.unique hresolves').2]
        rfl
    | readResolved hid hr hready hpending hanswer =>
        obtain ⟨data, r', there, hreads', hbecomes⟩ := read_becomes hid hr h
        cases there with
        | false => exact hbecomes.self
        | true => exact absurd (.read hid hr hready hpending hanswer hreads') hnot
    | writeResolved hid hr hready hpending hanswer =>
        exact absurd (.write hid hr hready hpending hanswer) hnot
    | writing hid hr hresolves hready hanswer =>
        exact absurd (.writing hid hr hresolves hready hanswer) hnot

/-! ## Runs -/

/-- A write event keeps to the story of every id, unless an answer is overlooked. -/
theorem follows_processWriteAnswered (d : Driver R L) (id id' : ResourceId) (env : PendingEnv)
    (answers : WriteAnswers)
    (hok : ∀ d', (d.processWriteAnswered id' env answers).result = .ok d' →
      ¬ Overlooks d (.write id' env, answers)) :
    (d.processWriteAnswered id' env answers).Follows (plot id (d.stage id))
      fun d' ↦ plot id (d'.stage id) := by
  rw [processWriteAnswered] at hok ⊢
  cases hid : id'.resourceType with
  | «local» => exact Proc.Follows.of_pure fun _ h ↦ h
  | remote =>
      rw [hid] at hok
      refine Proc.Follows.bind (follows_whenReady d id id' env) ?_
      rintro ⟨d₁, ready⟩ hready
      cases ready with
      | none => exact Proc.Follows.of_pure fun _ h ↦ h
      | some x =>
          obtain ⟨endpoint, r⟩ := x
          have hanswer : answers.writing = true := by
            by_contra hfalse
            rw [Bool.not_eq_true] at hfalse
            have hresult : (event (.disconnected endpoint) >>= fun _ ↦
                (pure d₁ : Action (Driver R L))).result = .ok d₁ := rfl
            refine hok d₁ ?_ ?_
            · rw [Proc.result_bind_ok hready]
              simp only [writeAnswered, hfalse]
              exact hresult
            · cases hr : d.remote id' with
              | none =>
                  rw [whenReady, hr] at hready
                  cases hready
              | some r₀ =>
                  obtain ⟨r', there, hresolves, -, hout⟩ := whenReady_cases hr hready
                  cases hr' : r'.properties.ready with
                  | false =>
                      rw [hr'] at hout
                      cases hout
                  | true =>
                      obtain rfl := hresolves.there hr'
                      exact .writing hid hr hresolves hr' hfalse
          have hwrite : writeAnswered endpoint answers.writing = pure () := by
            rw [hanswer]
            rfl
          simp only [hwrite, pure_bind]
          exact Proc.Follows.of_pure fun _ h ↦ h

/-- **Calls that overlook no answer keep to the story.** -/
theorem keepsStory_callAnswered :
    KeepsStory (callAnswered : Driver R L → Call × WriteAnswers → Action (Driver R L))
      registersAnswered fun d c ↦ ¬ Overlooks d c where
  follows d c id hid hok hc := by
    obtain ⟨c, answers⟩ := c
    by_cases hwrite : ∃ id' env, c = .write id' env
    · obtain ⟨id', env, rfl⟩ := hwrite
      exact follows_processWriteAnswered d id id' env answers hok
    · have hcall : d.callAnswered (c, answers) = d.call c := by
        cases c with
        | write id' env => exact absurd ⟨id', env, rfl⟩ hwrite
        | _ => rfl
      rw [hcall]
      exact follows_call_other d hid (fun id' env h ↦ hwrite ⟨id', env, h⟩) hc
  starts d c endpoint localId hc := by
    obtain ⟨c, answers⟩ := c
    have hcall : d.callAnswered (c, answers) = d.call c := by
      cases c with
      | write => cases hc
      | _ => rfl
    rw [hcall]
    exact follows_call_of_registers d hc

/-- All calls of a run remove what is at its end. -/
def RemovesEnded : Driver R L → List (Call × WriteAnswers) → Prop
  | _, [] => True
  | d, c :: calls => ∀ d', (d.callAnswered c).result = .ok d' →
      (∀ id, Ends d c id → d'.remote id = none) ∧ RemovesEnded d' calls

theorem removesEnded_iff (d : Driver R L) (calls : List (Call × WriteAnswers)) :
    RemovesEnded d calls ↔ Throughout callAnswered (fun d c ↦ ¬ Overlooks d c) d calls := by
  induction calls generalizing d with
  | nil => exact Iff.rfl
  | cons c calls ih =>
      rw [RemovesEnded, Throughout]
      refine forall_congr' fun d' ↦ forall_congr' fun hd' ↦ ?_
      rw [removes_iff hd', ih d']

/-- **Remotes end once, and are removed then, exactly if no answer of `ready_to_write` is
overlooked.**  Over any run in which every id is registered at most once, a call that learns that a
remote is at its end removes it, and at most one event tells of the end of each. -/
theorem ends_once_iff (d : Driver R L) (calls : List (Call × WriteAnswers))
    (hfresh : ((calls.filterMap registersAnswered).map fun r ↦ r.1.resourceId).Nodup)
    (habsent : ∀ r ∈ calls.filterMap registersAnswered, d.remote r.1.resourceId = none) :
    (RemovesEnded d calls ∧ ∀ id, id.resourceType = .remote →
        (terminalsOf id (runs callAnswered d calls).effects).length ≤ 1) ↔
      Throughout callAnswered (fun d c ↦ ¬ Overlooks d c) d calls := by
  rw [removesEnded_iff]
  refine ⟨And.left, fun hok ↦ ⟨hok, fun id hid ↦ ?_⟩⟩
  by_cases hreg : ∃ r ∈ calls.filterMap registersAnswered, r.1.resourceId = id
  · obtain ⟨⟨endpoint, localId⟩, hr, rfl⟩ := hreg
    exact (keepsStory_callAnswered.story hid hok hfresh hr (habsent _ hr)).terminals
  · have hstory := keepsStory_callAnswered.run hid hok fun r hr heq ↦ hreg ⟨r, hr, heq⟩
    exact Story.terminals (hstory.effects_mem fun d' ↦ plot_nil id _)

/-- An answer that is not `false` is not overlooked. -/
theorem not_overlooks {c : Call × WriteAnswers} (h : c.2 = ⟨true, true⟩) (d : Driver R L) :
    ¬ Overlooks d c := by
  rintro hoverlooks
  cases hoverlooks with
  | read _ _ _ _ hanswer =>
      cases h
      cases hanswer
  | write _ _ _ _ hanswer =>
      cases h
      cases hanswer
  | writing _ _ _ _ hanswer =>
      cases h
      cases hanswer

end Adapter

end Driver

namespace TcpDriver

open Driver

/-- A remote at an address, which connects. -/
def connectingTo (id : ResourceId) (addr : SocketAddr) : List (Call × WriteAnswers) :=
  [(.connectRegisterRemote addr (id, addr) ⟨0⟩ (.tcpConnect none) ⟨0⟩ .fine, ⟨true, true⟩),
    (.write id (.connectedTo addr), ⟨true, true⟩)]

/-- A remote connects and hangs up; a stale event comes behind that. -/
theorem ends_once_hang_up :
    let calls := connectingTo ⟨1⟩ (.localhost 80) ++
      [(.read ⟨1⟩ (.connectedTo (.localhost 80)) [.ofRead (.ok [])] [], ⟨true, true⟩),
        (.read ⟨1⟩ (.connectedTo (.localhost 80)) [.ofRead (.ok [])] [], ⟨true, true⟩)]
    RemovesEnded (new : TcpDriver) calls ∧
      (terminalsOf ⟨1⟩ (runs callAnswered (new : TcpDriver) calls).effects).length ≤ 1 := by
  intro calls
  have hends := (ends_once_iff (new : TcpDriver) calls (by decide) fun r hr ↦ remote_new _).2
    (throughout_of_forall (fun c hc ↦ not_overlooks (by
      simp only [calls, connectingTo, List.mem_append, List.mem_cons, List.not_mem_nil] at hc
      rcases hc with (rfl | rfl | h) | rfl | rfl | h <;> first | rfl | cases h)) _)
  exact ⟨hends.1, hends.2 ⟨1⟩ (by decide)⟩

/-- **A remote that cannot be written to is not removed**, and its end is told with every event of
the poll: an adapter like that of TCP, whose `ready_to_write` answers `false` twice. -/
theorem told_twice :
    let calls := connectingTo ⟨1⟩ (.localhost 80) ++
      [(.write ⟨1⟩ (.connectedTo (.localhost 80)), ⟨true, false⟩),
        (.write ⟨1⟩ (.connectedTo (.localhost 80)), ⟨true, false⟩)]
    ¬ RemovesEnded (new : TcpDriver) calls ∧
      terminalsOf ⟨1⟩ (runs callAnswered (new : TcpDriver) calls).effects =
        [.disconnected ⟨⟨1⟩, .localhost 80⟩, .disconnected ⟨⟨1⟩, .localhost 80⟩] := by
  intro calls
  refine ⟨fun h ↦ ?_, by decide⟩
  have hthird := ((h _ rfl).2 _ rfl).2 _ rfl
  have hgone := hthird.1 ⟨1⟩ (.writing rfl rfl (.wasReady rfl) rfl rfl)
  cases hgone

end TcpDriver

end MessageIo
