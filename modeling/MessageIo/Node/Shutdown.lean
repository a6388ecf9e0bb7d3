import Mathlib.Data.Prod.Lex
import Mathlib.Tactic.IntervalCases
import MessageIo.Node.Delivery

/-!
# Stopping a node

`NodeTask::wait` joins the master and the workers.  Each of them tests `is_running` between two
polls, so once `stop` has been called a thread ends as soon as it is through with what it has in
hand.  `Phase.measure` says how much that is: a batch of events, at most `maxCommands`
commands for each wake, and the effects of one call.  Every step of the thread makes it
smaller, but for a loop that accepts stream after stream, and nobody else makes it larger.  So
a thread that gets its turn comes to its end (`wait_returns`).
-/

namespace MessageIo

variable {N : Nat}

/-! ## What a thread has in hand -/

/-- A task counts for more than what it turns into. -/
def Task.weight : Task → Nat
  | .event _ => Node.maxCommands + 4
  | .drain count => Node.maxCommands - count + 2
  | .accept _ _ _ => 2
  | .halt _ => 1

theorem Task.one_lt_weight_event (e : PollEvent) : 1 < (event e).weight :=
  Nat.lt_of_lt_of_le Nat.one_lt_two (Nat.le_add_left 2 _)

/-- A post is performed in two halves. -/
def Pending.weight : Pending N → Nat
  | .effect _ => 2
  | .wake _ => 1

namespace Phase

/-- What a thread has in hand once the node is stopped. -/
def measure : Phase N → Nat ×ₗ Nat ×ₗ Nat
  | polling => toLex (3, toLex (0, 0))
  | busy pending tasks =>
      toLex (2, toLex ((tasks.map Task.weight).sum, (pending.map Pending.weight).sum))
  | test => toLex (1, toLex (0, 0))
  | _ => toLex (0, toLex (0, 0))

/-- A thread that does nothing more: it has left its loop, has panicked, or is in a call that
goes on forever. -/
def ended : Phase N → Bool
  | exited => true
  | panicked _ => true
  | busy [] (.halt .running :: _) => true
  | _ => false

theorem measure_lt_of_tasks {pending pending' : List (Pending N)} {tasks tasks' : List Task}
    (h : (tasks'.map Task.weight).sum < (tasks.map Task.weight).sum) :
    (busy pending' tasks').measure < (busy pending tasks).measure :=
  Prod.Lex.toLex_lt_toLex.2 (.inr ⟨rfl, Prod.Lex.toLex_lt_toLex.2 (.inl h)⟩)

/-- A task turns into others that count for less, whatever becomes pending. -/
theorem measure_lt_of_task {pending pending' : List (Pending N)} {task : Task}
    (more tasks : List Task) (h : (more.map Task.weight).sum < task.weight) :
    (busy pending' (more ++ tasks)).measure < (busy pending (task :: tasks)).measure := by
  refine measure_lt_of_tasks ?_
  rw [List.map_append, List.sum_append, List.map_cons, List.sum_cons]
  omega

/-- A task ends in a call that does not return. -/
theorem measure_lt_of_halt {pending pending' : List (Pending N)} {task : Task} (x : Halt)
    (tasks : List Task) (h : 1 < task.weight) :
    (busy pending' [.halt x]).measure < (busy pending (task :: tasks)).measure := by
  refine measure_lt_of_tasks ?_
  rw [List.map_cons, List.map_nil, List.sum_cons, List.sum_nil, List.map_cons, List.sum_cons,
    Task.weight]
  omega

theorem measure_lt_of_pending {pending pending' : List (Pending N)} (tasks : List Task)
    (h : (pending'.map Pending.weight).sum < (pending.map Pending.weight).sum) :
    (busy pending' tasks).measure < (busy pending tasks).measure :=
  Prod.Lex.toLex_lt_toLex.2 (.inr ⟨rfl, Prod.Lex.toLex_lt_toLex.2 (.inr ⟨rfl, h⟩)⟩)

end Phase

namespace Node

variable [NeZero N] {transports : List Transport} {s s' : Node N} {m : Ctl N} {a : Answers}

/-- The loop that accepts goes on for another turn. -/
def AcceptsOn (s : Node N) (m : Ctl N) : Step N → Prop
  | .mux m' a => m' = m ∧ ∃ t l id tasks, (s.muxes m).phase = .busy [] (.accept t l id :: tasks) ∧
      (Driver.acceptTurn l id (s.acceptEnv id a.accept)).result = .ok true
  | _ => False

omit [NeZero N] in
/-- Control makes what a thread has in hand smaller, once the node is stopped. -/
theorem Control.measure_lt {φ φ' : Phase N} (h : Control transports s m φ φ')
    (hstopped : s.running = false) : φ'.measure < φ.measure := by
  cases h with
  | again hrunning =>
      rw [hstopped] at hrunning
      cases hrunning
  | leave _ => exact Prod.Lex.toLex_lt_toLex.2 (.inl Nat.zero_lt_one)
  | «return» => exact Prod.Lex.toLex_lt_toLex.2 (.inl (Nat.lt_succ_self 1))
  | panic => exact Prod.Lex.toLex_lt_toLex.2 (.inl Nat.zero_lt_two)
  | @drain tasks => exact Phase.measure_lt_of_task [.drain 0] tasks (by decide)
  | drained _ => exact Phase.measure_lt_of_task [] _ (Nat.succ_pos _)
  | exhausted _ => exact Phase.measure_lt_of_task [] _ (Nat.succ_pos _)
  | @listener id t l tasks hlocal hget hl =>
      exact Phase.measure_lt_of_task [.accept t l.resource id] tasks
        (Nat.lt_of_lt_of_le (Nat.lt_succ_self 2) (Nat.le_add_left 3 _))
  | noListener hlocal => exact Phase.measure_lt_of_task [] _ (Nat.succ_pos _)
  | noProcessor hget => exact Phase.measure_lt_of_halt _ _ (Task.one_lt_weight_event _)

omit [NeZero N] in
/-- So does a call, with whatever it leaves pending. -/
theorem measure_proceed_lt {x : Mux N} {φ : Phase N} {pending : List (Pending N)} {task : Task}
    {tasks : List Task} (p : Action Processors) (more : List Task)
    (hφ : φ = .busy pending (task :: tasks))
    (hmore : (more.map Task.weight).sum < task.weight) (htask : 1 < task.weight) :
    (x.proceed p (more ++ tasks)).phase.measure < φ.measure := by
  rw [hφ, Mux.proceed]
  cases p.result with
  | ok ps => exact Phase.measure_lt_of_task more tasks hmore
  | error y => exact Phase.measure_lt_of_halt y tasks htask

/-- **Every step of a thread makes what it has in hand smaller**, once the node is stopped. -/
theorem MuxStep.measure_lt (hs : MuxStep transports s m a s') (hstopped : s.running = false)
    (hends : ¬ s.AcceptsOn m (.mux m a)) :
    (s'.muxes m).phase.measure < (s.muxes m).phase.measure := by
  have hself : ∀ {x : Mux N}, s'.muxes = Function.update s.muxes m x → s'.muxes m = x := by
    intro x hmuxes
    rw [hmuxes, Function.update_self]
  cases hs with
  | @control φ φ' hphase hc =>
      rw [hself (muxes_setPhase φ'), hphase]
      exact hc.measure_lt hstopped
  | poll hphase hreports =>
      rw [hself (muxes_polled ..), hphase]
      exact Prod.Lex.toLex_lt_toLex.2 (.inl (Nat.lt_succ_self 2))
  | @effect e pending tasks hphase =>
      rw [hphase]
      obtain ⟨pending', hphase', hweight⟩ : ∃ pending',
          ((s.perform m pending tasks e).muxes m).phase = .busy pending' tasks ∧
            (pending'.map Pending.weight).sum <
              ((.effect e :: pending).map Pending.weight).sum := by
        cases e with
        | post id c =>
            refine ⟨.wake (workerOf id) :: pending, ?_, Nat.add_lt_add_right Nat.one_lt_two _⟩
            rw [perform, phase_enqueue, muxes_setPhase, Function.update_self]
        | _ =>
            refine ⟨pending, ?_, Nat.lt_add_of_pos_left Nat.zero_lt_two⟩
            change (Function.update s.muxes m _ m).phase = _
            rw [Function.update_self]
      rw [hphase']
      exact Phase.measure_lt_of_pending tasks hweight
  | @wake m' pending tasks hphase =>
      rw [phase_wake, muxes_setPhase, Function.update_self, hphase]
      exact Phase.measure_lt_of_pending tasks (Nat.lt_add_of_pos_left Nat.zero_lt_one)
  | @remote id e p tasks hphase hevent =>
      rw [hself (muxes_processRemote transports s m id p tasks)]
      exact measure_proceed_lt p [] hphase (Nat.succ_pos _) (Task.one_lt_weight_event _)
  | @post count p queue tasks hphase hqueue hcount =>
      rw [hself (muxes_processPost ..)]
      refine measure_proceed_lt _ [.drain (count + 1)] hphase ?_ ?_
      · change maxCommands - (count + 1) + 2 + 0 < maxCommands - count + 2
        omega
      · change 1 < maxCommands - count + 2
        omega
  | @accept t l id tasks hphase =>
      rw [hself (muxes_acceptFrom s m l id tasks a.accept), hphase]
      change (acceptPhase _ t l id tasks : Phase N).measure < _
      rw [acceptPhase]
      cases hres : (Driver.acceptTurn l id (s.acceptEnv id a.accept)).result with
      | error y => exact Phase.measure_lt_of_halt y tasks Nat.one_lt_two
      | ok more =>
          cases more with
          | true => exact absurd ⟨rfl, t, l, id, tasks, hphase, hres⟩ hends
          | false => exact Phase.measure_lt_of_task [] tasks Nat.zero_lt_two

/-! ## What others do about it -/

/-- Nobody starts a node again. -/
theorem running_step {b : Step N} (hstopped : s.running = false)
    (hs : s.step transports b = some s') : s'.running = false := by
  cases b with
  | generate resourceType t =>
      rw [Node.step] at hs
      split at hs
      · cases hs
        cases resourceType <;> exact hstopped
      · cases hs
  | enqueue m c =>
      cases hs
      exact hstopped
  | wake m =>
      rw [Node.step] at hs
      split at hs
      · cases hs
        exact hstopped
      · cases hs
  | stop =>
      cases hs
      rfl
  | mux m a =>
      cases stepMux_cases hs with
      | @effect e pending tasks hphase => cases e <;> exact hstopped
      | _ => exact hstopped

/-- A thread that has not ended has a step to take. -/
theorem exists_stepMux (transports : List Transport) (h : (s.muxes m).phase.ended = false) :
    ∃ s', s.stepMux transports m (.quiet []) = some s' := by
  rw [stepMux]
  cases hphase : (s.muxes m).phase with
  | test => exact ⟨_, rfl⟩
  | polling => exact ⟨_, rfl⟩
  | exited =>
      rw [hphase] at h
      cases h
  | panicked p =>
      rw [hphase] at h
      cases h
  | busy pending tasks =>
      rw [hphase] at h
      cases pending with
      | cons e pending => cases e <;> exact ⟨_, rfl⟩
      | nil =>
          cases tasks with
          | nil => exact ⟨_, rfl⟩
          | cons task tasks =>
              cases task with
              | event e => exact ⟨_, rfl⟩
              | accept t l id => exact ⟨_, rfl⟩
              | drain count =>
                  simp only
                  split
                  · split <;> exact ⟨_, rfl⟩
                  · exact ⟨_, rfl⟩
              | halt x =>
                  cases x with
                  | panic p => exact ⟨_, rfl⟩
                  | running => cases h

/-- One that has ended has none. -/
theorem stepMux_of_ended (transports : List Transport) (h : (s.muxes m).phase.ended = true)
    (a : Answers) : s.stepMux transports m a = none := by
  rw [stepMux]
  cases hphase : (s.muxes m).phase with
  | exited => rfl
  | panicked p => rfl
  | test =>
      rw [hphase] at h
      cases h
  | polling =>
      rw [hphase] at h
      cases h
  | busy pending tasks =>
      rw [hphase] at h
      cases pending with
      | cons e pending => cases h
      | nil =>
          cases tasks with
          | nil => cases h
          | cons task tasks =>
              cases task with
              | halt x =>
                  cases x with
                  | running => rfl
                  | panic p => cases h
              | _ => cases h

/-! ## Waiting -/

/-- **`NodeTask::wait` returns**, or a thread has panicked or is in a call of its own that goes on
forever.  In a run that does not end, somebody calls `stop`, every thread gets its turn as long
as it has something to do, and no loop goes on accepting streams forever. -/
theorem wait_returns (transports : List Transport) {s : ℕ → Node N} {bs : ℕ → Step N}
    (hrun : Transition.Forever (step transports) s bs) (hstop : ∃ n, bs n = .stop)
    (haccepts : ∀ m, ∃ n, ∀ k, n ≤ k → ¬ (s k).AcceptsOn m (bs k))
    (hfair : ∀ m n, ∃ k, n ≤ k ∧
      ((∃ a, bs k = .mux m a) ∨ ∀ a, (s k).stepMux transports m a = none)) :
    ∃ n, ∀ k, n ≤ k → ∀ m, ((s k).muxes m).phase.ended = true := by
  obtain ⟨start, hstart⟩ := hstop
  have hstopped : ∀ k, start + 1 ≤ k → (s k).running = false := by
    intro k hk
    refine hrun.keeps (P := fun s ↦ s.running = false) (fun h hs ↦ running_step h hs) ?_ hk
    have hstep := hrun start
    rw [hstart] at hstep
    exact (congrArg running (Option.some.inj hstep)).symm
  -- one thread after the other
  have hone : ∀ m, ∃ n, ∀ k, n ≤ k → ((s k).muxes m).phase.ended = true := by
    intro m
    obtain ⟨last, hlast⟩ := haccepts m
    have hacts : ∀ k, max (start + 1) last ≤ k → (∃ a, bs k = .mux m a) →
        ((s (k + 1)).muxes m).phase.measure < ((s k).muxes m).phase.measure := by
      rintro k hk ⟨a, ha⟩
      have hends := hlast k ((le_max_right _ _).trans hk)
      have hstep := hrun k
      rw [ha] at hstep hends
      exact (stepMux_cases hstep).measure_lt (hstopped k ((le_max_left _ _).trans hk)) hends
    have hothers : ∀ k, (¬ ∃ a, bs k = .mux m a) →
        ((s (k + 1)).muxes m).phase = ((s k).muxes m).phase :=
      fun k hk ↦ phase_step (hrun k) fun a heq ↦ hk ⟨a, heq⟩
    have hturns : ∀ k, ∃ j, k ≤ j ∧
        ((∃ a, bs j = .mux m a) ∨ ¬ ((s j).muxes m).phase.ended = false) := by
      intro k
      obtain ⟨j, hj, hturn⟩ := hfair m k
      refine ⟨j, hj, hturn.imp_right fun hnone hended ↦ ?_⟩
      obtain ⟨s', hs'⟩ := exists_stepMux transports hended
      cases (hnone _).symm.trans hs'
    obtain ⟨n, -, hn⟩ := Transition.finally_done (fun s : Node N ↦ (s.muxes m).phase.measure)
      (fun n ↦ ∃ a, bs n = .mux m a) (fun s ↦ (s.muxes m).phase.ended = false) _ hacts
      (fun k _ hk ↦ congrArg Phase.measure (hothers k hk))
      (fun k _ hk hended ↦ by rwa [hothers k hk]) hturns
    exact ⟨n, fun k hk ↦ Bool.eq_true_of_not_eq_false (hn k hk)⟩
  choose n hn using hone
  exact ⟨Finset.univ.sup n, fun k hk m ↦ hn m k ((Finset.le_sup (Finset.mem_univ m)).trans hk)⟩

/-- The master has been woken, and the worker polls, when `stop` comes.  The master drains its
queue, both test the flag, and the user goes on calling `stop`. -/
def tillStopped : List (Step 1) :=
  [.enqueue .master (.greet "last"), .wake .master, .mux (.worker 0) (.quiet []),
    .mux .master (.quiet []), .mux .master (.quiet [.waker]), .stop, .mux .master (.quiet []),
    .mux .master (.quiet []), .mux .master (.quiet []), .mux .master (.quiet []),
    .mux .master (.quiet []), .mux .master (.quiet []), .mux (.worker 0) (.quiet []),
    .mux (.worker 0) (.quiet []), .mux (.worker 0) (.quiet [])]

def stopping (n : ℕ) : Step 1 := tillStopped.getD n .stop

/-- The states that this leads through. -/
def stoppingState : ℕ → Node 1
  | 0 => new 1
  | n + 1 => ((stoppingState n).step [] (stopping n)).getD (stoppingState n)

theorem phase_stoppingState (n : ℕ) (m : Ctl 1) :
    ((stoppingState (n + 15)).muxes m).phase = .exited := by
  induction n with
  | zero =>
      cases m with
      | master => rfl
      | worker i =>
          obtain rfl := Subsingleton.elim i 0
          rfl
  | succ n ih => exact ih

/-- Both threads have something in hand when `stop` comes, and leave their loops. -/
theorem wait_returns_drained :
    Transition.Forever (step []) stoppingState stopping ∧
      ∃ n, ∀ k, n ≤ k → ∀ m, ((stoppingState k).muxes m).phase.ended = true := by
  have hrun : Transition.Forever (step []) stoppingState stopping := by
    intro n
    by_cases hn : n < 15
    · interval_cases n <;> rfl
    · obtain ⟨n, rfl⟩ := Nat.exists_eq_add_of_le' (Nat.le_of_not_lt hn)
      rfl
  refine ⟨hrun, wait_returns [] hrun ⟨5, rfl⟩ (fun m ↦ ⟨15, fun k hk ↦ ?_⟩) fun m n ↦ ?_⟩
  · obtain ⟨k, rfl⟩ := Nat.exists_eq_add_of_le' hk
    exact id
  · refine ⟨n + 15, Nat.le_add_right _ _, .inr fun a ↦ stepMux_of_ended [] ?_ a⟩
    rw [phase_stoppingState]
    rfl

end Node

end MessageIo
