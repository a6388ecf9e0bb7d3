import MessageIo.Node.Inversion

/-!
# Whether a wake can be lost

A post is an enqueue and a wake; wakes coalesce, and the poll forgets them when it
reports them.  A thread that has been woken drains its queue, but it stops after
`MAX_COMMANDS` commands, and then the commands that are left wait without a wake.
`awake` says that this is the only way to lose one.
-/

namespace MessageIo

namespace Node

variable {N : Nat}

/-! ## Wakes -/

/-- A wake of `m` is on its way: some thread is between its enqueue and its wake. -/
def Waking (s : Node N) (m : Ctl N) : Prop :=
  0 < s.posters m ∨ ∃ m', .wake m ∈ (s.muxes m').phase.pending

/-- **No command waits without a wake**: between two calls of `process_poll_event`, the queue
is empty or a wake has not been reported yet or is on its way. -/
def NoLostWakeUp (s : Node N) : Prop :=
  ∀ m, (s.muxes m).phase = .test → (s.muxes m).queue ≠ [] →
    (s.muxes m).woken = true ∨ s.Waking m

/-- A drain that stops has emptied the queue, or there is a wake to come back for the rest. -/
def DrainsFully (s : Node N) : Step N → Prop
  | .mux m _ => ∀ count tasks, (s.muxes m).phase = .busy [] (.drain count :: tasks) →
      maxCommands ≤ count → (s.muxes m).queue = [] ∨ (s.muxes m).woken = true ∨ s.Waking m
  | _ => True

/-- The thread is going to drain its queue before it polls again, or never polls again. -/
def WillDrain (φ : Phase N) : Prop :=
  (∃ task ∈ φ.tasks, task = .event .waker ∨ (∃ count, task = .drain count) ∨ ∃ h, task = .halt h) ∨
    ∃ p, φ = .panicked p

/-- The invariant: commands wait only for a thread that is woken, or is being woken, or is
going to drain. -/
def Awake (s : Node N) : Prop :=
  ∀ m, (s.muxes m).queue ≠ [] →
    (s.muxes m).woken = true ∨ s.Waking m ∨ WillDrain (s.muxes m).phase

theorem Awake.noLostWakeUp {s : Node N} (h : s.Awake) : s.NoLostWakeUp := by
  intro m hphase hqueue
  rcases h m hqueue with hwoken | hwaking | ⟨task, htask, -⟩ | ⟨p, hp⟩
  · exact .inl hwoken
  · exact .inr hwaking
  · rw [hphase] at htask
    cases htask
  · rw [hphase] at hp
    cases hp

theorem awake_new : (new N).Awake := fun _ h ↦ absurd rfl h

/-- A thread that has a task before it that is not about the queue. -/
theorem WillDrain.of_cons {task : Task} {tasks : List Task}
    (h : WillDrain (.busy (N := N) [] (task :: tasks))) (hwaker : task ≠ .event .waker)
    (hdrain : ∀ count, task ≠ .drain count) (hhalt : ∀ x, task ≠ .halt x)
    (pending : List (Pending N)) : WillDrain (.busy pending tasks) := by
  rcases h with ⟨task', hmem, htask⟩ | ⟨p, hp⟩
  · rcases List.mem_cons.1 hmem with rfl | hmem
    · rcases htask with h | ⟨count, h⟩ | ⟨x, h⟩
      · exact absurd h hwaker
      · exact absurd h (hdrain count)
      · exact absurd h (hhalt x)
    · exact .inl ⟨task', hmem, htask⟩
  · cases hp

/-- The pending effects do not matter. -/
theorem WillDrain.of_busy {pending pending' : List (Pending N)} {tasks : List Task}
    (h : WillDrain (.busy pending tasks)) : WillDrain (.busy pending' tasks) := by
  rcases h with h | ⟨p, hp⟩
  · exact .inl h
  · cases hp

theorem willDrain_halt (pending : List (Pending N)) (h : Halt) :
    WillDrain (.busy pending [.halt h]) :=
  .inl ⟨_, List.mem_cons_self, .inr (.inr ⟨h, rfl⟩)⟩

theorem willDrain_drain (pending : List (Pending N)) (count : Nat) (tasks : List Task) :
    WillDrain (.busy pending (.drain count :: tasks)) :=
  .inl ⟨_, List.mem_cons_self, .inr (.inl ⟨count, rfl⟩)⟩

/-! ## Every step keeps the invariant -/

section

variable {s s' : Node N} {m w : Ctl N} {x : Mux N}

/-- A wake on its way stays there if the thread that owes it still does. -/
theorem Waking.of_update (h : s.Waking w) (hmuxes : s'.muxes = Function.update s.muxes m x)
    (hposters : s'.posters = s.posters)
    (hpending : .wake w ∈ (s.muxes m).phase.pending → .wake w ∈ x.phase.pending) :
    s'.Waking w := by
  rcases h with hpos | ⟨m', hmem⟩
  · exact .inl (hposters ▸ hpos)
  · refine .inr ⟨m', ?_⟩
    rw [hmuxes]
    by_cases hm : m' = m
    · subst hm
      rw [Function.update_self]
      exact hpending hmem
    · rwa [Function.update_of_ne hm]

/-- One thread changes and owes no fewer wakes than before. -/
theorem Awake.of_update (h : s.Awake) (hmuxes : s'.muxes = Function.update s.muxes m x)
    (hposters : s'.posters = s.posters)
    (hpending : ∀ w, .wake w ∈ (s.muxes m).phase.pending → .wake w ∈ x.phase.pending)
    (hx : x.queue ≠ [] → x.woken = true ∨ s'.Waking m ∨ WillDrain x.phase) : s'.Awake := by
  intro m' hqueue
  by_cases hm : m' = m
  · subst hm
    rw [hmuxes, Function.update_self] at hqueue ⊢
    exact hx hqueue
  · rw [hmuxes, Function.update_of_ne hm] at hqueue ⊢
    rcases h m' hqueue with hwoken | hwaking | hdrain
    · exact .inl hwoken
    · exact .inr (.inl (hwaking.of_update hmuxes hposters (hpending m')))
    · exact .inr (.inr hdrain)

/-- A thread goes from one phase to another with its queue and its waker as they were. -/
theorem Awake.setPhase {φ : Phase N} (h : s.Awake)
    (hpending : ∀ w, .wake w ∈ (s.muxes m).phase.pending → .wake w ∈ φ.pending)
    (hdrain : (s.muxes m).queue ≠ [] → WillDrain (s.muxes m).phase →
      WillDrain φ ∨ (s.muxes m).woken = true ∨ s.Waking m) : (s.setPhase m φ).Awake := by
  refine h.of_update rfl rfl hpending fun hkept ↦ ?_
  have hqueue : (s.muxes m).queue ≠ [] := by
    intro hnil
    rw [hnil, Phase.keeps_nil] at hkept
    exact hkept rfl
  have hwaking : s.Waking m → (s.setPhase m φ).Waking m :=
    fun hw ↦ hw.of_update rfl rfl (hpending m)
  rcases h m hqueue with hwoken | hw | hwill
  · exact .inl hwoken
  · exact .inr (.inl (hwaking hw))
  · rcases hdrain hqueue hwill with hwill | hwoken | hw
    · exact .inr (.inr hwill)
    · exact .inl hwoken
    · exact .inr (.inl (hwaking hw))

/-- An enqueue that a wake is going to follow. -/
theorem Awake.enqueue (h : s.Awake) (hw : s.Waking m) (c : WakerCommand) :
    (s.enqueue m c).Awake :=
  h.of_update rfl rfl (fun _ hmem ↦ hmem) fun _ ↦ .inr (.inl (hw.of_update rfl rfl id))

theorem Awake.record (h : s.Awake) (es : List (Entry N)) : (s.record es).Awake := h

end

section

variable {transports : List Transport} {s : Node N} {m : Ctl N}

/-- A step of control leads away from a drain only where the drain ends. -/
theorem Control.willDrain {φ φ' : Phase N} (h : Control transports s m φ φ')
    (hqueue : (s.muxes m).queue ≠ []) (hwill : WillDrain φ) :
    WillDrain φ' ∨ ∃ count tasks, φ = .busy [] (.drain count :: tasks) ∧ maxCommands ≤ count := by
  cases h with
  | again _ => rcases hwill with ⟨_, h, -⟩ | ⟨_, h⟩ <;> cases h
  | leave _ => rcases hwill with ⟨_, h, -⟩ | ⟨_, h⟩ <;> cases h
  | «return» => rcases hwill with ⟨_, h, -⟩ | ⟨_, h⟩ <;> cases h
  | drain => exact .inl (willDrain_drain _ _ _)
  | drained h => exact absurd h hqueue
  | @exhausted count tasks h => exact .inr ⟨count, tasks, rfl, h⟩
  | listener hlocal hget hl =>
      left
      rcases hwill.of_cons nofun nofun nofun [] with ⟨task, hmem, htask⟩ | ⟨p, hp⟩
      · exact .inl ⟨task, List.mem_cons_of_mem _ hmem, htask⟩
      · cases hp
  | noListener hlocal => exact .inl (hwill.of_cons nofun nofun nofun [])
  | noProcessor hget => exact .inl (willDrain_halt _ _)
  | panic => exact .inl (.inr ⟨_, rfl⟩)

end

section

variable [NeZero N] {s : Node N} {m : Ctl N}

theorem Awake.perform {pending : List (Pending N)} {tasks : List Task} {e : Effect} (h : s.Awake)
    (hphase : (s.muxes m).phase = .busy (.effect e :: pending) tasks) :
    (s.perform m pending tasks e).Awake := by
  have hpending : ∀ w, .wake w ∈ (s.muxes m).phase.pending → .wake w ∈ pending := by
    intro w hmem
    rw [hphase] at hmem
    rcases List.mem_cons.1 hmem with heq | hmem
    · cases heq
    · exact hmem
  have hwill : ∀ pending', WillDrain (s.muxes m).phase →
      WillDrain (.busy (N := N) pending' tasks) := by
    intro pending' hw
    rw [hphase] at hw
    exact hw.of_busy
  have hset : (s.setPhase m (.busy pending tasks)).Awake :=
    h.setPhase hpending fun _ hw ↦ .inl (hwill _ hw)
  cases e with
  | emit e => exact hset.record _
  | call cb reply => exact hset.record _
  | write w => exact hset
  | post id c =>
      refine Awake.enqueue ?_ (.inr ⟨m, ?_⟩) c
      · exact h.setPhase (fun w hmem ↦ List.mem_cons_of_mem _ (hpending w hmem))
          fun _ hw ↦ .inl (hwill _ hw)
      · rw [muxes_setPhase, Function.update_self]
        exact List.mem_cons_self

end

section

variable {s s' : Node N} {m : Ctl N}

/-- The wake that ends a post: who is woken needs no other one. -/
theorem Awake.wakePending {m' : Ctl N} {pending : List (Pending N)} {tasks : List Task}
    (h : s.Awake) (hphase : (s.muxes m).phase = .busy (.wake m' :: pending) tasks) :
    ((s.setPhase m (.busy pending tasks)).wake m').Awake := by
  intro w hqueue
  by_cases hw : w = m'
  · subst hw
    left
    rw [wake, muxes_setMux, Function.update_self]
  · have hmux : ((s.setPhase m (.busy pending tasks)).wake m').muxes w =
        (s.setPhase m (.busy pending tasks)).muxes w := Function.update_of_ne hw ..
    have hwaking : s.Waking w → ((s.setPhase m (.busy pending tasks)).wake m').Waking w := by
      intro hs
      have hset : (s.setPhase m (.busy pending tasks)).Waking w := by
        refine hs.of_update rfl rfl fun hmem ↦ ?_
        rw [hphase] at hmem
        rcases List.mem_cons.1 hmem with heq | hmem
        · cases heq
          exact absurd rfl hw
        · exact hmem
      exact hset.of_update rfl rfl id
    rw [hmux] at hqueue ⊢
    rw [muxes_setPhase] at hqueue ⊢
    by_cases hm : w = m
    · subst hm
      rw [Function.update_self] at hqueue ⊢
      rcases h w hqueue with hwoken | hs | hwill
      · exact .inl hwoken
      · exact .inr (.inl (hwaking hs))
      · rw [hphase] at hwill
        exact .inr (.inr hwill.of_busy)
    · rw [Function.update_of_ne hm] at hqueue ⊢
      rcases h w hqueue with hwoken | hs | hwill
      · exact .inl hwoken
      · exact .inr (.inl (hwaking hs))
      · exact .inr (.inr hwill)

/-- A reported wake is one that the thread is going to answer. -/
theorem Awake.polled {batch : List PollEvent} (h : s.Awake)
    (hphase : (s.muxes m).phase = .polling) : (s.polled m batch).Awake := by
  refine h.of_update rfl rfl ?_ fun hqueue ↦ ?_
  · rw [hphase]
    exact fun w hmem ↦ absurd hmem List.not_mem_nil
  · by_cases hwaker : PollEvent.waker ∈ batch
    · exact .inr (.inr (.inl ⟨_, List.mem_map_of_mem hwaker, .inl rfl⟩))
    · rcases h m hqueue with hwoken | hw | ⟨task, hmem, -⟩ | ⟨p, hp⟩
      · left
        change ((s.muxes m).woken && !(batch.contains .waker)) = true
        rw [hwoken, Bool.true_and, List.contains_eq_mem, decide_eq_false hwaker]
        rfl
      · refine .inr (.inl (hw.of_update rfl rfl fun hmem ↦ ?_))
        rw [hphase] at hmem
        cases hmem
      · rw [hphase] at hmem
        cases hmem
      · rw [hphase] at hp
        cases hp

/-- A call of a driver, in a thread that has nothing pending. -/
theorem Awake.proceed {x : Mux N} {p : Action Processors} {tasks tasks' : List Task}
    (h : s.Awake) (hphase : (s.muxes m).phase = .busy [] tasks')
    (hmuxes : s'.muxes = Function.update s.muxes m (x.proceed p tasks))
    (hposters : s'.posters = s.posters)
    (hx : x.queue ≠ [] → x.woken = true ∨ s.Waking m ∨ WillDrain (.busy (N := N) [] tasks)) :
    s'.Awake := by
  have hnone : ∀ w, .wake w ∈ (s.muxes m).phase.pending →
      .wake w ∈ (x.proceed p tasks).phase.pending := by
    rw [hphase]
    exact fun w hmem ↦ absurd hmem List.not_mem_nil
  refine h.of_update hmuxes hposters hnone fun hqueue ↦ ?_
  rw [Mux.queue_proceed] at hqueue
  rw [Mux.woken_proceed]
  rcases hx hqueue with hwoken | hw | hwill
  · exact .inl hwoken
  · exact .inr (.inl (hw.of_update hmuxes hposters (hnone m)))
  · rw [Mux.proceed]
    cases p.result with
    | ok ps => exact .inr (.inr hwill.of_busy)
    | error x => exact .inr (.inr (willDrain_halt _ _))

theorem Awake.acceptFrom {t : Transport} {l : t.LocalResource} {id : ResourceId}
    {tasks : List Task} {env : AcceptEnv} (h : s.Awake)
    (hphase : (s.muxes m).phase = .busy [] (.accept t l id :: tasks)) :
    (s.acceptFrom m t l id tasks env).Awake := by
  have hset : ∀ turn, (s.setPhase m (acceptPhase turn t l id tasks)).Awake := by
    intro turn
    refine h.setPhase ?_ fun _ hwill ↦ .inl ?_
    · rw [hphase]
      exact fun w hmem ↦ absurd hmem List.not_mem_nil
    · rw [hphase] at hwill
      have htail : ∀ pending, WillDrain (.busy (N := N) pending tasks) :=
        hwill.of_cons nofun nofun nofun
      rw [acceptPhase]
      cases turn.result with
      | error x => exact willDrain_halt _ _
      | ok more =>
          cases more with
          | false => exact htail _
          | true =>
              rcases htail [] with ⟨task, hmem, htask⟩ | ⟨p, hp⟩
              · exact .inl ⟨task, List.mem_cons_of_mem _ hmem, htask⟩
              · cases hp
  exact hset _

/-- The posters of one thread change, which is not left without a wake. -/
theorem Awake.setPosters {n : Nat} (h : s.Awake) (hmuxes : s'.muxes = s.muxes)
    (hposters : s'.posters = Function.update s.posters m n)
    (hm : (s.muxes m).woken = true ∨ 0 < n) : s'.Awake := by
  intro w hqueue
  rw [hmuxes] at hqueue ⊢
  by_cases hw : w = m
  · subst hw
    rcases hm with hwoken | hn
    · exact .inl hwoken
    · refine .inr (.inl (.inl ?_))
      rwa [hposters, Function.update_self]
  · rcases h w hqueue with hwoken | (hpos | ⟨m', hmem⟩) | hwill
    · exact .inl hwoken
    · refine .inr (.inl (.inl ?_))
      rwa [hposters, Function.update_of_ne hw]
    · refine .inr (.inl (.inr ⟨m', ?_⟩))
      rwa [hmuxes]
    · exact .inr (.inr hwill)

theorem Awake.wake (h : s.Awake) : (s.wake m).Awake :=
  h.of_update rfl rfl (fun _ hmem ↦ hmem) fun _ ↦ .inl rfl

end

variable [NeZero N] {transports : List Transport} {s s' : Node N} {m : Ctl N} {a : Answers}

theorem Awake.stepMux (h : s.Awake) (hfull : s.DrainsFully (.mux m a))
    (hs : MuxStep transports s m a s') : s'.Awake := by
  cases hs with
  | control hphase hc =>
      refine h.setPhase ?_ ?_
      · rw [hphase, hc.pending_eq_nil.1]
        exact fun w hmem ↦ absurd hmem List.not_mem_nil
      · intro hqueue hwill
        rw [hphase] at hwill
        rcases hc.willDrain hqueue hwill with hwill | ⟨count, tasks, rfl, hcount⟩
        · exact .inl hwill
        · rcases hfull count tasks hphase hcount with hnil | hwoken | hwaking
          · exact absurd hnil hqueue
          · exact .inr (.inl hwoken)
          · exact .inr (.inr hwaking)
  | poll hphase hreports => exact h.polled hphase
  | effect hphase => exact h.perform hphase
  | wake hphase => exact h.wakePending hphase
  | remote hphase hevent =>
      refine h.proceed hphase rfl rfl fun hqueue ↦ ?_
      rcases h m hqueue with hwoken | hw | hwill
      · exact .inl hwoken
      · exact .inr (.inl hw)
      · rw [hphase] at hwill
        have hwaker := hevent.ne_waker
        exact .inr (.inr (hwill.of_cons (fun heq ↦ hwaker (Task.event.inj heq)) nofun nofun []))
  | post hphase hqueue hcount =>
      exact h.proceed hphase rfl rfl fun _ ↦ .inr (.inr (willDrain_drain _ _ _))
  | accept hphase => exact h.acceptFrom hphase

/-- **Every step keeps the invariant**, if no drain stops with commands left and no wake to
come. -/
theorem Awake.step {b : Step N} (h : s.Awake) (hfull : s.DrainsFully b)
    (hs : s.step transports b = some s') : s'.Awake := by
  cases b with
  | generate resourceType t =>
      rw [Node.step] at hs
      split at hs
      · cases hs
        cases resourceType <;> exact h
      · cases hs
  | enqueue m c =>
      cases hs
      have hposters : Awake { s with
          held := (postedId c).elim s.held s.held.erase
          posters := Function.update s.posters m (s.posters m + 1) } :=
        h.setPosters rfl rfl (.inr (Nat.succ_pos _))
      refine hposters.enqueue (.inl ?_) c
      change 0 < Function.update s.posters m _ m
      rw [Function.update_self]
      exact Nat.succ_pos _
  | wake m =>
      rw [Node.step] at hs
      split at hs
      · cases hs
        refine h.wake.setPosters rfl rfl (.inl ?_)
        rw [Node.wake, muxes_setMux, Function.update_self]
      · cases hs
  | stop =>
      cases hs
      exact h
  | mux m a => exact h.stepMux hfull (stepMux_cases hs)

/-- **No wake is lost in a run in which no drain stops at `MAX_COMMANDS` with commands left
and no wake to come.** -/
theorem no_lost_wake_up (transports : List Transport) {s : Node N}
    (h : Transition.Reach (step transports) DrainsFully (new N) s) : s.NoLostWakeUp :=
  (h.invariant awake_new fun hs hfull hstep ↦ hs.step hfull hstep).noLostWakeUp

/-! ## Runs of the master -/

/-- A node with one worker, in which only the master has done anything. -/
def masterAt (queue : List Post) (woken : Bool) (φ : Phase 1) (streams : Nat) (h : History 1) :
    Node 1 :=
  { new 1 with
    streams := streams
    muxes := Function.update (new 1).muxes .master ⟨queue, woken, φ, .new, []⟩
    history := h }

/-- A command that the master answers with an event. -/
def greeting : Post := ⟨.greet "hello", false⟩

/-- A drain that has more to take, or a wake to come back for it. -/
def drainsFully (s : Node 1) : Step 1 → Bool
  | .mux m _ =>
      match (s.muxes m).phase with
      | .busy [] (.drain count :: _) => count < maxCommands || (s.muxes m).woken
      | _ => true
  | _ => true

theorem drainsFully_sound {s : Node 1} {b : Step 1} (h : drainsFully s b = true) :
    s.DrainsFully b := by
  cases b with
  | mux m a =>
      intro count tasks hphase hcount
      simp only [drainsFully, hphase, Bool.or_eq_true, decide_eq_true_eq] at h
      exact .inr (.inl (h.resolve_left (Nat.not_lt.2 hcount)))
  | _ => trivial

/-- A step that is taken if no wake is lost by it. -/
def carefulStep (s : Node 1) (b : Step 1) : Option (Node 1) :=
  if drainsFully s b then step [] s b else none

/-- What can be reached without losing a wake. -/
abbrev Careful (s : Node 1) : Prop := Transition.Reach (step []) DrainsFully (new 1) s

theorem Careful.of_run {s s' : Node 1} {bs : List (Step 1)} (h : Careful s)
    (hrun : Transition.run carefulStep s bs = some s') : Careful s' :=
  h.trans (.of_checked_run (fun _ _ ↦ drainsFully_sound) hrun)

theorem careful_new : Careful (masterAt [] false .test 0 []) := by
  have hnew : masterAt [] false .test 0 [] = new 1 := by
    rw [masterAt]
    exact congrArg (fun muxes ↦ { new 1 with muxes }) (Function.update_eq_self _ _)
  rw [hnew]
  exact .refl

section

variable (queue : List Post) (woken : Bool) (streams : Nat) (h : History 1)

theorem run_post {φ : Phase 1} (hφ : φ.disconnected = false) :
    Transition.run carefulStep (masterAt queue woken φ streams h)
        [.enqueue .master (.greet "hello"), .wake .master] =
      some (masterAt (queue ++ [greeting]) true φ streams h) := by
  simp [Transition.run, carefulStep, drainsFully, step, masterAt, enqueue, wake, setMux, postedId,
    new, WakerCommand.target, greeting, Phase.keeps_of_connected hφ]

theorem run_greet {count : Nat} (hcount : count < maxCommands) :
    ∃ h', Transition.run carefulStep
        (masterAt (greeting :: queue) woken (.busy [] [.drain count]) streams h)
        [.mux .master (.quiet []), .mux .master (.quiet [])] =
      some (masterAt queue woken (.busy [] [.drain (count + 1)]) (streams + 1) h') := by
  refine ⟨.emitted .master (.waker (.greet "hello")) :: .dequeued .master greeting false :: h, ?_⟩
  have hprocess : ∀ (ps : Processors) (env : CommandEnv),
      processCommand [] ps greeting.command env = ⟨[.emit (.waker (.greet "hello"))], .ok ps⟩ :=
    fun _ _ ↦ rfl
  have hentries : ∀ ps : Processors, postEntries [] (.master : Ctl 1) ps greeting
      ⟨[.emit (.waker (.greet "hello"))], .ok ps⟩ = [.dequeued .master greeting false] :=
    fun _ ↦ rfl
  have hwatches : greeting.command.watches = none := rfl
  simp [Transition.run, carefulStep, drainsFully, step, stepMux, masterAt, hcount, processPost,
    hprocess, Mux.proceed, setMux, hentries, hwatches, perform, setPhase, record]

theorem run_poll :
    Transition.run carefulStep (masterAt queue true .test streams h)
        [.mux .master (.quiet []), .mux .master (.quiet [.waker]), .mux .master (.quiet [])] =
      some (masterAt queue false (.busy [] [.drain 0]) streams h) := by
  simp [Transition.run, carefulStep, drainsFully, step, stepMux, masterAt, setPhase, setMux, new,
    polled, Answers.quiet, Mux.reports, processEvent]

/-- A drain comes to its end, with a wake to come or without. -/
theorem run_exhausted :
    Transition.run (step []) (masterAt queue woken (.busy [] [.drain maxCommands]) streams h)
        [.mux .master (.quiet []), .mux .master (.quiet [])] =
      some (masterAt queue woken .test streams h) := by
  simp [Transition.run, step, stepMux, masterAt, setPhase, setMux]

theorem run_exhausted_woken :
    Transition.run carefulStep (masterAt queue true (.busy [] [.drain maxCommands]) streams h)
        [.mux .master (.quiet []), .mux .master (.quiet [])] =
      some (masterAt queue true .test streams h) := by
  simp [Transition.run, carefulStep, drainsFully, step, stepMux, masterAt, setPhase, setMux]

end

/-- Any number of posts before the master looks. -/
theorem careful_posts (n : Nat) :
    Careful (masterAt (List.replicate (n + 1) greeting) true .test 0 []) := by
  induction n with
  | zero => exact careful_new.of_run (run_post _ _ _ _ rfl)
  | succ n ih =>
      rw [List.replicate_succ']
      exact ih.of_run (run_post _ _ _ _ rfl)

/-- A drain takes commands as long as there are any and it may. -/
theorem careful_drain (n k : Nat) {count streams : Nat} {woken : Bool} {h : History 1}
    (hcount : count + n ≤ maxCommands)
    (hs : Careful (masterAt (List.replicate (n + k) greeting) woken (.busy [] [.drain count])
      streams h)) :
    ∃ streams' h', Careful (masterAt (List.replicate k greeting) woken
      (.busy [] [.drain (count + n)]) streams' h') := by
  induction n generalizing count streams h with
  | zero =>
      rw [Nat.zero_add] at hs
      exact ⟨streams, h, hs⟩
  | succ n ih =>
      rw [Nat.add_right_comm, List.replicate_succ] at hs
      have hlt : count < maxCommands := by omega
      obtain ⟨h', hrun⟩ := run_greet (List.replicate (n + k) greeting) woken streams h hlt
      obtain ⟨streams', h'', hs'⟩ := ih (by omega) (hs.of_run hrun)
      rw [Nat.add_assoc, Nat.add_comm 1] at hs'
      exact ⟨streams', h'', hs'⟩

/-- One more post comes while 1025 commands are drained: two are left behind, and its wake is
still to be reported. -/
theorem no_lost_wake_up_woken : ∃ s : Node 1, (s.muxes .master).phase = .test ∧
    (s.muxes .master).queue = [greeting, greeting] ∧ (s.muxes .master).woken = true ∧
      s.NoLostWakeUp := by
  have hpoll := (careful_posts 1024).of_run (run_poll ..)
  have hpost := hpoll.of_run (run_post _ _ _ _ rfl)
  rw [← List.replicate_succ'] at hpost
  obtain ⟨streams, h, hdrained⟩ := careful_drain 1024 2 (Nat.le_of_eq (Nat.zero_add _)) hpost
  exact ⟨_, rfl, rfl, rfl, no_lost_wake_up [] (hdrained.of_run (run_exhausted_woken ..))⟩

/-! ## A wake that is lost -/

/-- What can be reached. -/
abbrev Possible (s : Node 1) : Prop := Transition.Reach (step []) (fun _ _ ↦ True) (new 1) s

/-- When 1025 posts meet one poll, the last command is left behind without a wake. -/
theorem wake_up_lost : ∃ s, Possible s ∧ ¬ s.NoLostWakeUp := by
  have hpoll := (careful_posts 1024).of_run (run_poll ..)
  obtain ⟨streams, h, hdrained⟩ := careful_drain 1024 1 (Nat.le_of_eq (Nat.zero_add _)) hpoll
  have hpossible : Possible _ := hdrained.mono fun _ ↦ trivial
  refine ⟨_, hpossible.trans (.of_run (fun _ _ _ ↦ trivial) (run_exhausted ..)), fun hlost ↦ ?_⟩
  rcases hlost .master rfl (List.cons_ne_nil _ _) with hwoken | hpos | ⟨m', hmem⟩
  · cases hwoken
  · cases hpos
  · cases m' with
    | master => cases hmem
    | worker i => cases hmem

end Node

end MessageIo
