import MessageIo.Network.DriverSpec
import MessageIo.Node.Inversion

/-!
# Where things come from

A step adds little to what a thread has before it.  For a pending effect, a queued
command, a task, the drivers and the watched ids of a thread after a step, the
lemmas here say where each of them was before, or which call of the step it comes from.
Invariants that hold of every single one of them follow without another look at the steps.
-/

namespace MessageIo

namespace Node

section

variable {N : Nat} {s s' : Node N} {m m' : Ctl N}

/-- A thread after a step is what it was, or is the one that has changed. -/
theorem muxes_update_cases {x : Mux N} (hmuxes : s'.muxes = Function.update s.muxes m x)
    (m' : Ctl N) : s'.muxes m' = s.muxes m' ∨ m' = m ∧ s'.muxes m' = x := by
  rw [hmuxes]
  by_cases hm : m' = m
  · subst hm
    rw [Function.update_self]
    exact .inr ⟨rfl, rfl⟩
  · rw [Function.update_of_ne hm]
    exact .inl rfl

/-- What is pending in a thread is what was, or comes from the change of that thread. -/
theorem mem_pending_update {x : Mux N} {e : Pending N}
    (hmuxes : s'.muxes = Function.update s.muxes m x)
    (he : e ∈ (s'.muxes m').phase.pending) :
    e ∈ (s.muxes m').phase.pending ∨ m' = m ∧ e ∈ x.phase.pending := by
  rcases muxes_update_cases hmuxes m' with h | ⟨hm, h⟩
  · exact .inl (h ▸ he)
  · exact .inr ⟨hm, h ▸ he⟩

/-- A thread changes but for its drivers and what it watches. -/
theorem drivers_update {x : Mux N} (hmuxes : s'.muxes = Function.update s.muxes m x)
    (hprocessors : x.processors = (s.muxes m).processors)
    (hwatched : x.watched = (s.muxes m).watched)
    (m' : Ctl N) : (s'.muxes m').processors = (s.muxes m').processors ∧
      (s'.muxes m').watched = (s.muxes m').watched := by
  rcases muxes_update_cases hmuxes m' with h | ⟨rfl, h⟩
  · rw [h]
    exact ⟨rfl, rfl⟩
  · rw [h]
    exact ⟨hprocessors, hwatched⟩

/-- A post changes the queue of one thread and nothing else. -/
theorem drivers_enqueue (c : WakerCommand) (m' : Ctl N) :
    ((s.enqueue m c).muxes m').processors = (s.muxes m').processors ∧
      ((s.enqueue m c).muxes m').watched = (s.muxes m').watched :=
  drivers_update (muxes_enqueue c) rfl rfl m'

theorem drivers_wake (m' : Ctl N) :
    ((s.wake m).muxes m').processors = (s.muxes m').processors ∧
      ((s.wake m).muxes m').watched = (s.muxes m').watched :=
  drivers_update muxes_wake rfl rfl m'

theorem drivers_setPhase (φ : Phase N) (m' : Ctl N) :
    ((s.setPhase m φ).muxes m').processors = (s.muxes m').processors ∧
      ((s.setPhase m φ).muxes m').watched = (s.muxes m').watched :=
  drivers_update (muxes_setPhase φ) rfl rfl m'

theorem mem_queue_enqueue {c : WakerCommand} {p : Post}
    (hp : p ∈ ((s.enqueue m c).muxes m').queue) :
    p ∈ (s.muxes m').queue ∨ m' = m ∧ p = ⟨c, c.target.any s.history.taught⟩ := by
  rw [enqueue, muxes_setMux] at hp
  by_cases hm : m' = m
  · subst hm
    rw [Function.update_self] at hp
    rcases List.mem_append.1 (Phase.mem_of_mem_keeps hp) with hp | hp
    · exact .inl hp
    · exact .inr ⟨rfl, List.mem_singleton.1 hp⟩
  · rw [Function.update_of_ne hm] at hp
    exact .inl hp

/-- A thread changes and takes nothing into its queue. -/
theorem mem_queue_update {x : Mux N} {p : Post} (hp : p ∈ (s'.muxes m').queue)
    (hmuxes : s'.muxes = Function.update s.muxes m x)
    (hx : ∀ p ∈ x.queue, p ∈ (s.muxes m).queue) : p ∈ (s.muxes m').queue := by
  rcases muxes_update_cases hmuxes m' with h | ⟨rfl, h⟩
  · exact h ▸ hp
  · exact hx p (h ▸ hp)

end

/-- A poll event of a remote tells of that remote, and changes nothing but its register. -/
theorem RemoteEvent.spec {transports : List Transport} {ps : Processors} {a : Answers}
    {id : ResourceId} {e : PollEvent} {p : Action Processors}
    (h : RemoteEvent transports ps a id e p) : p.Satisfies (Driver.IsEventOf id)
      (Processors.Evolve transports id ps) (EventHalt transports id) := by
  cases h with
  | read hremote => exact processNetworkRead_spec hremote _ _
  | write => exact processNetworkWrite_spec _

/-- A poll event of a remote that is not registered has no effect. -/
theorem RemoteEvent.effects_of_not_registered {transports : List Transport} {ps : Processors}
    {a : Answers} {id : ResourceId} {e : PollEvent} {p : Action Processors}
    (h : RemoteEvent transports ps a id e p) (hid : isRegistered transports ps id = false) :
    p.effects = [] := by
  rw [isRegistered] at hid
  cases h with
  | read hremote =>
      rw [processNetworkRead]
      cases hget : getProcessor transports id with
      | error x => rfl
      | ok t =>
          rw [hget] at hid
          have hnone := Option.isNone_iff_eq_none.1 (Option.isSome_eq_false_iff.1 hid)
          rw [Proc.ofExcept_ok_bind, result_bind_pure.1]
          exact Driver.effects_processRead_of_none hremote hnone _ _ _
  | write =>
      rw [processNetworkWrite]
      cases hget : getProcessor transports id with
      | error x => rfl
      | ok t =>
          rw [hget] at hid
          have hnone := Option.isNone_iff_eq_none.1 (Option.isSome_eq_false_iff.1 hid)
          rw [Proc.ofExcept_ok_bind, result_bind_pure.1]
          exact Driver.effects_processWrite_of_none hnone _

variable {N : Nat} [NeZero N]

/-- **The call that a step makes**, with the drivers it is to leave. -/
inductive Calls (transports : List Transport) (s : Node N) (m : Ctl N) (a : Answers) :
    Action Processors → Prop
  | noProcessor {id : ResourceId} {x : Halt} {tasks : List Task}
      (hphase : (s.muxes m).phase = .busy [] (.event (.networkRead id) :: tasks))
      (hget : getProcessor transports id = .error x) : Calls transports s m a (.halt x)
  | remote {id : ResourceId} {e : PollEvent} {p : Action Processors} {tasks : List Task}
      (hphase : (s.muxes m).phase = .busy [] (.event e :: tasks))
      (h : RemoteEvent transports (s.muxes m).processors a id e p) : Calls transports s m a p
  | post {count : Nat} {p : Post} {queue : List Post} {tasks : List Task}
      (hphase : (s.muxes m).phase = .busy [] (.drain count :: tasks))
      (hqueue : (s.muxes m).queue = p :: queue) :
      Calls transports s m a (processCommand transports (s.muxes m).processors p.command
        (a.command.withStream ⟨s.streams⟩))
  | accept {t : Transport} {l : t.LocalResource} {id : ResourceId} {tasks : List Task}
      (hphase : (s.muxes m).phase = .busy [] (.accept t l id :: tasks)) :
      Calls transports s m a ⟨(Driver.acceptTurn l id (s.acceptEnv id a.accept)).effects,
        (Driver.acceptTurn l id (s.acceptEnv id a.accept)).result.map fun _ ↦
          (s.muxes m).processors⟩

variable {transports : List Transport} {s s' : Node N} {m m' : Ctl N} {a : Answers}

/-- The phase after an effect: what is behind the effect is left, and a wake if it was a post. -/
theorem phase_perform (s : Node N) (m m' : Ctl N) (e : Effect) (pending : List (Pending N))
    (tasks : List Task) :
    m' ≠ m ∧ ((s.perform m pending tasks e).muxes m').phase = (s.muxes m').phase ∨
      m' = m ∧ ∃ pending', ((s.perform m pending tasks e).muxes m').phase = .busy pending' tasks ∧
        ∀ e, .effect e ∈ pending' → .effect e ∈ pending := by
  have hset : ∀ pending', m' ≠ m ∧ ((s.setPhase m (.busy pending' tasks)).muxes m').phase =
      (s.muxes m').phase ∨
        m' = m ∧ ((s.setPhase m (.busy pending' tasks)).muxes m').phase = .busy pending' tasks := by
    intro pending'
    rw [muxes_setPhase]
    by_cases hm : m' = m
    · subst hm
      rw [Function.update_self]
      exact .inr ⟨rfl, rfl⟩
    · rw [Function.update_of_ne hm]
      exact .inl ⟨hm, rfl⟩
  cases e with
  | post id c =>
      rw [perform, phase_enqueue]
      refine (hset (.wake (workerOf id) :: pending)).imp_right fun ⟨hm, h⟩ ↦ ⟨hm, _, h, ?_⟩
      intro e he
      rcases List.mem_cons.1 he with he | he
      · cases he
      · exact he
  | emit e => exact (hset pending).imp_right fun ⟨hm, h⟩ ↦ ⟨hm, _, h, fun _ he ↦ he⟩
  | call cb reply => exact (hset pending).imp_right fun ⟨hm, h⟩ ↦ ⟨hm, _, h, fun _ he ↦ he⟩
  | write w => exact (hset pending).imp_right fun ⟨hm, h⟩ ↦ ⟨hm, _, h, fun _ he ↦ he⟩

/-- No effect touches the drivers. -/
theorem drivers_perform (e : Effect) (pending : List (Pending N)) (tasks : List Task) (m' : Ctl N) :
    ((s.perform m pending tasks e).muxes m').processors = (s.muxes m').processors ∧
      ((s.perform m pending tasks e).muxes m').watched = (s.muxes m').watched := by
  cases e with
  | post id c =>
      obtain ⟨hprocessors, hwatched⟩ :=
        drivers_setPhase (s := s) (m := m) (.busy (.wake (workerOf id) :: pending) tasks) m'
      exact ⟨(drivers_enqueue c m').1.trans hprocessors, (drivers_enqueue c m').2.trans hwatched⟩
  | emit e => exact drivers_setPhase _ m'
  | call cb reply => exact drivers_setPhase _ m'
  | write w => exact drivers_setPhase _ m'

/-- **What is pending** was so before, or is an effect of the call that the step makes. -/
theorem MuxStep.mem_pending {e : Effect} (hs : MuxStep transports s m a s')
    (he : .effect e ∈ (s'.muxes m').phase.pending) :
    .effect e ∈ (s.muxes m').phase.pending ∨
      m' = m ∧ ∃ p, Calls transports s m a p ∧ e ∈ p.effects := by
  cases hs with
  | control hphase hc =>
      rcases mem_pending_update rfl he with he | ⟨-, he⟩
      · exact .inl he
      · rw [hc.pending_eq_nil.2] at he
        cases he
  | poll hphase hreports =>
      rcases mem_pending_update rfl he with he | ⟨-, he⟩
      · exact .inl he
      · cases he
  | @effect e' pending tasks hphase =>
      left
      rcases phase_perform s m m' e' pending tasks with ⟨-, hsame⟩ | ⟨rfl, pending', hpending, hsub⟩
      · rwa [hsame] at he
      · rw [hpending] at he
        rw [hphase]
        exact List.mem_cons_of_mem _ (hsub _ he)
  | @wake m'' pending tasks hphase =>
      rw [phase_wake] at he
      rcases mem_pending_update rfl he with he | ⟨rfl, he⟩
      · exact .inl he
      · left
        rw [hphase]
        exact List.mem_cons_of_mem _ he
  | remote hphase hevent =>
      rcases mem_pending_update rfl he with he | ⟨rfl, he⟩
      · exact .inl he
      · rw [Mux.pending_proceed] at he
        obtain ⟨e', he', heq⟩ := List.mem_map.1 he
        cases heq
        exact .inr ⟨rfl, _, .remote hphase hevent, he'⟩
  | post hphase hqueue hcount =>
      rcases mem_pending_update rfl he with he | ⟨rfl, he⟩
      · exact .inl he
      · rw [Mux.pending_proceed] at he
        obtain ⟨e', he', heq⟩ := List.mem_map.1 he
        cases heq
        exact .inr ⟨rfl, _, .post hphase hqueue, he'⟩
  | accept hphase =>
      rcases mem_pending_update rfl he with he | ⟨rfl, he⟩
      · exact .inl he
      · rw [pending_acceptPhase] at he
        obtain ⟨e', he', heq⟩ := List.mem_map.1 he
        cases heq
        exact .inr ⟨rfl, _, .accept hphase, he'⟩

/-- **What is in a queue** was there before, or is posted by the thread. -/
theorem MuxStep.mem_queue {p : Post} (hs : MuxStep transports s m a s')
    (hp : p ∈ (s'.muxes m').queue) :
    p ∈ (s.muxes m').queue ∨ ∃ id, .effect (.post id p.command) ∈ (s.muxes m).phase.pending ∧
      m' = workerOf id ∧ p.learned = p.command.target.any s.history.taught := by
  cases hs with
  | control hphase hc => exact .inl (mem_queue_update hp rfl fun _ h ↦ Phase.mem_of_mem_keeps h)
  | poll hphase hreports => exact .inl (mem_queue_update hp rfl fun _ h ↦ h)
  | @effect e pending tasks hphase =>
      cases e with
      | emit e => exact .inl (mem_queue_update hp rfl fun _ h ↦ h)
      | call cb reply => exact .inl (mem_queue_update hp rfl fun _ h ↦ h)
      | write w => exact .inl (mem_queue_update hp rfl fun _ h ↦ h)
      | post id c =>
          rcases mem_queue_enqueue hp with hp | ⟨rfl, rfl⟩
          · exact .inl (mem_queue_update hp rfl fun _ h ↦ h)
          · refine .inr ⟨id, ?_, rfl, rfl⟩
            rw [hphase]
            exact List.mem_cons_self
  | @wake m'' pending tasks hphase =>
      have hp' : p ∈ ((s.setPhase m (.busy pending tasks)).muxes m').queue :=
        mem_queue_update hp rfl fun _ h ↦ h
      exact .inl (mem_queue_update hp' rfl fun _ h ↦ h)
  | remote hphase hevent =>
      refine .inl (mem_queue_update hp rfl fun _ h ↦ ?_)
      rwa [Mux.queue_proceed] at h
  | post hphase hqueue hcount =>
      refine .inl (mem_queue_update hp rfl fun _ h ↦ ?_)
      rw [Mux.queue_proceed] at h
      rw [hqueue]
      exact List.mem_cons_of_mem _ h
  | accept hphase => exact .inl (mem_queue_update hp rfl fun _ h ↦ Phase.mem_of_mem_keeps h)

/-! ## Ids -/

/-- No thread of the node touches the ids that the operations hold. -/
theorem MuxStep.held (hs : MuxStep transports s m a s') : s'.held = s.held := by
  cases hs with
  | @effect e pending tasks hphase => cases e <;> rfl
  | _ => rfl

/-- Nor do they change the type of the ids that they are given. -/
theorem MuxStep.resourceType_rgen (hs : MuxStep transports s m a s') :
    s'.rgen.resourceType = s.rgen.resourceType := by
  cases hs with
  | @effect e pending tasks hphase => cases e <;> rfl
  | @accept t l id tasks hphase =>
      change (if _ then _ else _ : ResourceIdGenerator).resourceType = _
      split <;> rfl
  | _ => rfl

/-- **An id that is handed out** to a thread of the node is for a stream it has accepted. -/
theorem MuxStep.mem_ids {id : ResourceId} (hs : MuxStep transports s m a s') (hid : id ∈ s'.ids) :
    id ∈ s.ids ∨ ∃ t l id' tasks, (s.muxes m).phase = .busy [] (.accept t l id' :: tasks) ∧
      (s.rgen.generate id'.adapterId).1 = some id := by
  cases hs with
  | @effect e pending tasks hphase =>
      cases e <;> exact .inl hid
  | @accept t l id' tasks hphase =>
      rcases List.mem_append.1 hid with hid | hid
      · split at hid
        · exact .inr ⟨t, l, id', tasks, hphase, Option.mem_toList.1 hid⟩
        · cases hid
      · exact .inl hid
  | _ => exact .inl hid

/-! ## Tasks -/

/-- A task that a step adds. -/
inductive NewTask (transports : List Transport) (s : Node N) (m : Ctl N) (a : Answers) :
    Task → Prop
  | event {e : PollEvent} (h : (s.muxes m).reports e = true) : NewTask transports s m a (.event e)
  | drain (count : Nat) : NewTask transports s m a (.drain count)
  | accept {t : Transport} {l : Register t.LocalResource Unit} {id : ResourceId} {tasks : List Task}
      (hphase : (s.muxes m).phase = .busy [] (.event (.networkRead id) :: tasks))
      (hget : getProcessor transports id = .ok t) :
        NewTask transports s m a (.accept t l.resource id)
  | halt {p : Action Processors} {x : Halt} (h : Calls transports s m a p)
      (hres : p.result = .error x) : NewTask transports s m a (.halt x)

omit [NeZero N] in
/-- Where the tasks of a phase that control leads to come from. -/
theorem Control.mem_tasks {φ φ' : Phase N} {task : Task} (h : Control transports s m φ φ')
    (hphase : (s.muxes m).phase = φ) (ht : task ∈ φ'.tasks) :
    task ∈ φ.tasks ∨ NewTask transports s m a task := by
  cases h with
  | again _ => cases ht
  | leave _ => cases ht
  | «return» => cases ht
  | panic => cases ht
  | drained _ => exact .inl (List.mem_cons_of_mem _ ht)
  | exhausted _ => exact .inl (List.mem_cons_of_mem _ ht)
  | noListener _ => exact .inl (List.mem_cons_of_mem _ ht)
  | drain =>
      rcases List.mem_cons.1 ht with rfl | ht
      · exact .inr (.drain 0)
      · exact .inl (List.mem_cons_of_mem _ ht)
  | listener hlocal hget hl =>
      rcases List.mem_cons.1 ht with rfl | ht
      · exact .inr (.accept hphase hget)
      · exact .inl (List.mem_cons_of_mem _ ht)
  | noProcessor hget =>
      obtain rfl := List.mem_singleton.1 ht
      exact .inr (.halt (.noProcessor hphase hget) rfl)

omit [NeZero N] in
theorem mem_tasks_proceed {x : Mux N} {p : Action Processors} {tasks : List Task} {task : Task}
    (hcall : Calls transports s m a p) (ht : task ∈ (x.proceed p tasks).phase.tasks) :
    task ∈ tasks ∨ NewTask transports s m a task := by
  rcases x.tasks_proceed p tasks with ⟨-, htasks⟩ | ⟨y, hres, htasks⟩
  · rw [htasks] at ht
    exact .inl ht
  · rw [htasks] at ht
    obtain rfl := List.mem_singleton.1 ht
    exact .inr (.halt hcall hres)

/-- **The tasks of a thread** were before it already, or are those that the step adds. -/
theorem MuxStep.mem_tasks {task : Task} (hs : MuxStep transports s m a s')
    (ht : task ∈ (s'.muxes m').phase.tasks) :
    task ∈ (s.muxes m').phase.tasks ∨ m' = m ∧ NewTask transports s m a task := by
  have hupdate : ∀ {x : Mux N}, s'.muxes = Function.update s.muxes m x →
      (task ∈ x.phase.tasks → task ∈ (s.muxes m).phase.tasks ∨ NewTask transports s m a task) →
      task ∈ (s.muxes m').phase.tasks ∨ m' = m ∧ NewTask transports s m a task := by
    intro x hmuxes hx
    rcases muxes_update_cases hmuxes m' with h | ⟨rfl, h⟩
    · rw [h] at ht
      exact .inl ht
    · rw [h] at ht
      exact (hx ht).imp_right fun h ↦ ⟨rfl, h⟩
  cases hs with
  | control hphase hc =>
      refine hupdate rfl fun h ↦ ?_
      rw [hphase]
      exact hc.mem_tasks hphase h
  | poll hphase hreports =>
      refine hupdate rfl fun h ↦ .inr ?_
      obtain ⟨e, he, rfl⟩ := List.mem_map.1 h
      exact .event (hreports e he)
  | @effect e pending tasks hphase =>
      left
      rcases phase_perform s m m' e pending tasks with ⟨-, h⟩ | ⟨rfl, pending', h, -⟩
      · rwa [h] at ht
      · rw [h] at ht
        rwa [hphase]
  | wake hphase =>
      left
      rw [phase_wake, muxes_setPhase] at ht
      by_cases hm : m' = m
      · subst hm
        rw [Function.update_self] at ht
        rwa [hphase]
      · rwa [Function.update_of_ne hm] at ht
  | remote hphase hevent =>
      refine hupdate rfl fun h ↦ ?_
      rw [hphase]
      exact (mem_tasks_proceed (.remote hphase hevent) h).imp_left
        (List.mem_cons_of_mem _)
  | post hphase hqueue hcount =>
      refine hupdate rfl fun h ↦ ?_
      rw [hphase]
      rcases mem_tasks_proceed (.post hphase hqueue) h with h | h
      · rcases List.mem_cons.1 h with rfl | h
        · exact .inr (.drain _)
        · exact .inl (List.mem_cons_of_mem _ h)
      · exact .inr h
  | accept hphase =>
      refine hupdate rfl fun h ↦ ?_
      rw [hphase]
      change task ∈ (acceptPhase (Driver.acceptTurn _ _ _) _ _ _ _).tasks at h
      rw [acceptPhase] at h
      split at h
      · split at h
        · exact .inl h
        · exact .inl (List.mem_cons_of_mem _ h)
      · rename_i y hy
        obtain rfl := List.mem_singleton.1 h
        exact .inr (.halt (.accept hphase) (congrArg (Except.map _) hy))

/-- **A thread that has panicked** did so before, or has come to a call that panics. -/
theorem MuxStep.panicked {p : Panic} (hs : MuxStep transports s m a s')
    (hp : (s'.muxes m').phase = .panicked p) :
    (s.muxes m').phase = .panicked p ∨ m' = m ∧ .halt (.panic p) ∈ (s.muxes m).phase.tasks := by
  have hbusy : ∀ {x : Mux N}, s'.muxes = Function.update s.muxes m x → x.phase ≠ .panicked p →
      (s.muxes m').phase = .panicked p := by
    intro x hmuxes hx
    rcases muxes_update_cases hmuxes m' with h | ⟨-, h⟩
    · rwa [h] at hp
    · rw [h] at hp
      exact absurd hp hx
  have hproceed : ∀ (x : Mux N) (done : Action Processors) (tasks : List Task),
      (x.proceed done tasks).phase ≠ .panicked p := by
    intro x done tasks
    rw [Mux.proceed]
    cases done.result <;> rintro ⟨⟩
  cases hs with
  | @control φ φ' hphase hc =>
      have hcases := muxes_update_cases (muxes_setPhase (s := s) (m := m) φ') m'
      rcases hcases with h | ⟨rfl, h⟩
      · rw [h] at hp
        exact .inl hp
      · rw [h] at hp
        cases hc with
        | panic =>
            cases hp
            rw [hphase]
            exact .inr ⟨rfl, List.mem_cons_self⟩
        | _ => cases hp
  | poll hphase hreports => exact .inl (hbusy rfl (by rintro ⟨⟩))
  | @effect e pending tasks hphase =>
      rcases phase_perform s m m' e pending tasks with ⟨-, h⟩ | ⟨-, pending', h, -⟩
      · rw [h] at hp
        exact .inl hp
      · rw [h] at hp
        cases hp
  | @wake m'' pending tasks hphase =>
      rw [phase_wake] at hp
      have hcases := muxes_update_cases (muxes_setPhase (s := s) (m := m) (.busy pending tasks)) m'
      rcases hcases with h | ⟨-, h⟩
      · rw [h] at hp
        exact .inl hp
      · rw [h] at hp
        cases hp
  | remote hphase hevent => exact .inl (hbusy rfl (hproceed _ _ _))
  | post hphase hqueue hcount => exact .inl (hbusy rfl (hproceed _ _ _))
  | accept hphase =>
      refine .inl (hbusy rfl ?_)
      change acceptPhase _ _ _ _ _ ≠ _
      rw [acceptPhase]
      split <;> rintro ⟨⟩

/-! ## Drivers -/

/-- **The drivers of a thread** are those it had, or what the call of the step leaves. -/
theorem MuxStep.drives (hs : MuxStep transports s m a s') (m' : Ctl N) :
    (s'.muxes m').processors = (s.muxes m').processors ∨
      m' = m ∧ ∃ p, Calls transports s m a p ∧ p.result = .ok (s'.muxes m').processors := by
  have hproceed : ∀ {x : Mux N} {p : Action Processors} {tasks : List Task},
      s'.muxes = Function.update s.muxes m (x.proceed p tasks) →
      x.processors = (s.muxes m).processors → Calls transports s m a p →
      (s'.muxes m').processors = (s.muxes m').processors ∨
        m' = m ∧ ∃ p, Calls transports s m a p ∧ p.result = .ok (s'.muxes m').processors := by
    intro x p tasks hmuxes hx hcall
    rcases muxes_update_cases hmuxes m' with h | ⟨rfl, h⟩
    · rw [h]
      exact .inl rfl
    · rw [h]
      rcases x.processors_proceed p tasks with hres | ⟨-, hsame⟩
      · exact .inr ⟨rfl, p, hcall, hres⟩
      · rw [hsame]
        exact .inl hx
  cases hs with
  | control hphase hc => exact .inl (drivers_setPhase _ m').1
  | poll hphase hreports => exact .inl (drivers_update (muxes_polled ..) rfl rfl m').1
  | @effect e pending tasks hphase => exact .inl (drivers_perform e pending tasks m').1
  | wake hphase => exact .inl ((drivers_wake m').1.trans (drivers_setPhase _ m').1)
  | remote hphase hevent => exact hproceed rfl rfl (.remote hphase hevent)
  | post hphase hqueue hcount => exact hproceed rfl rfl (.post hphase hqueue)
  | accept hphase => exact .inl (drivers_setPhase _ m').1

/-- **What a thread watches** it did before, or is what a command in its queue is about. -/
theorem MuxStep.mem_watched {id : ResourceId} (hs : MuxStep transports s m a s')
    (hid : id ∈ (s'.muxes m').watched) :
    id ∈ (s.muxes m').watched ∨
      m' = m ∧ ∃ p ∈ (s.muxes m).queue, p.command.watches = some id := by
  have hsame : (s'.muxes m').watched = (s.muxes m').watched → id ∈ (s.muxes m').watched :=
    fun h ↦ h ▸ hid
  cases hs with
  | control hphase hc => exact .inl (hsame (drivers_setPhase _ m').2)
  | poll hphase hreports => exact .inl (hsame (drivers_update (muxes_polled ..) rfl rfl m').2)
  | @effect e pending tasks hphase => exact .inl (hsame (drivers_perform e pending tasks m').2)
  | wake hphase => exact .inl (hsame ((drivers_wake m').2.trans (drivers_setPhase _ m').2))
  | @remote id' e p tasks hphase hevent =>
      rcases muxes_update_cases (muxes_processRemote transports s m id' p tasks) m' with
        h | ⟨rfl, h⟩
      · exact .inl (hsame (congrArg Mux.watched h))
      · exact .inl (hsame ((congrArg Mux.watched h).trans (Mux.watched_proceed ..)))
  | @post count p queue tasks hphase hqueue hcount =>
      rcases muxes_update_cases (muxes_processPost transports s m { s.muxes m with queue } p
        (.drain (count + 1) :: tasks) a.command) m' with h | ⟨rfl, h⟩
      · exact .inl (hsame (congrArg Mux.watched h))
      · rw [(congrArg Mux.watched h).trans (Mux.watched_proceed ..)] at hid
        rcases List.mem_append.1 hid with hid | hid
        · rw [hqueue]
          exact .inr ⟨rfl, p, List.mem_cons_self, Option.mem_toList.1 hid⟩
        · exact .inl hid
  | accept hphase => exact .inl (hsame (drivers_setPhase _ m').2)

/-! ## Others -/

/-- A step of one thread leaves the others where they are. -/
theorem MuxStep.others (hs : MuxStep transports s m a s') {m' : Ctl N} (hm : m' ≠ m) :
    (s'.muxes m').phase = (s.muxes m').phase ∧
      (s'.muxes m').processors = (s.muxes m').processors := by
  have hsame : ∀ {x : Mux N}, s'.muxes = Function.update s.muxes m x →
      (s'.muxes m').phase = (s.muxes m').phase := by
    intro x hmuxes
    rw [hmuxes, Function.update_of_ne hm]
  refine ⟨?_, (hs.drives m').resolve_right fun h ↦ hm h.1⟩
  cases hs with
  | control hphase hc => exact hsame rfl
  | poll hphase hreports => exact hsame rfl
  | remote hphase hevent => exact hsame rfl
  | post hphase hqueue hcount => exact hsame rfl
  | accept hphase => exact hsame rfl
  | @effect e pending tasks hphase =>
      exact ((phase_perform s m m' e pending tasks).resolve_right fun h ↦ hm h.1).2
  | @wake m'' pending tasks hphase =>
      rw [phase_wake, muxes_setPhase, Function.update_of_ne hm]

/-- What is not a step of a thread leaves it where it is. -/
theorem phase_step {b : Step N} (hs : s.step transports b = some s')
    (hb : ∀ a, b ≠ .mux m a) : (s'.muxes m).phase = (s.muxes m).phase := by
  cases b with
  | generate resourceType t =>
      rw [Node.step] at hs
      split at hs
      · cases hs
        cases resourceType <;> rfl
      · cases hs
  | enqueue m' c =>
      cases hs
      exact phase_enqueue c m
  | wake m' =>
      rw [Node.step] at hs
      split at hs
      · cases hs
        exact phase_wake m
      · cases hs
  | stop =>
      cases hs
      rfl
  | mux m' a =>
      refine ((stepMux_cases hs).others ?_).1
      rintro rfl
      exact hb a rfl

/-- A thread that has ended takes no step. -/
theorem MuxStep.connected (hs : MuxStep transports s m a s') :
    (s.muxes m).phase.disconnected = false := by
  cases hs with
  | control hphase hc =>
      rw [hphase]
      cases hc <;> rfl
  | _ hphase => exact congrArg Phase.disconnected hphase

/-- Nor does anybody start it again. -/
theorem disconnected_step {b : Step N} (hs : s.step transports b = some s')
    (h : (s.muxes m).phase.disconnected = true) : (s'.muxes m).phase.disconnected = true := by
  rw [phase_step hs]
  · exact h
  · rintro a rfl
    rw [(stepMux_cases hs).connected] at h
    cases h

end Node

end MessageIo
