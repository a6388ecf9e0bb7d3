import MessageIo.Node.Origin

/-!
# What is still told to the user after `stop`

The flag `running` is tested once for each call of `process_poll_event`.  A thread that
is past the test goes on with its batch, and with the commands it drains, whatever
happens to the flag.  So the user may hear of what a thread has in hand when `stop` comes,
which is the rest of the call of `process_poll_event` that it is in.  If that tells the user
nothing, nobody does: at the next test of the flag the thread leaves its loop
(`no_event_after_stop`).

`Stopping` goes along with a node and remembers who has tested the flag since `stop`.
-/

namespace MessageIo

variable {N : Nat}

/-- What a thread does next is something that can tell the user: it takes a `Greet` or a
`Stop` from its queue, or has a poll event of a remote that is registered. -/
def Mux.speaks (transports : List Transport) (x : Mux N) : Bool :=
  match x.phase with
  | .busy [] (.drain count :: _) =>
      count < Node.maxCommands && x.queue.head?.any fun p ↦ p.command.isEvent
  | .busy [] (.event (.networkRead id) :: _) => isRegistered transports x.processors id
  | .busy [] (.event (.networkWrite id) :: _) => isRegistered transports x.processors id
  | _ => false

/-- A call of the event callback is what a thread does next, or soon. -/
def Mux.aboutToEmit (x : Mux N) : Prop := ∃ e, .effect (.emit e) ∈ x.phase.pending

theorem Mux.aboutToEmit.of_phase {x x' : Mux N} (h : x.aboutToEmit) (hphase : x.phase = x'.phase) :
    x'.aboutToEmit := by
  rwa [aboutToEmit, ← hphase]

/-- An entry that is neither a `stop` nor tells the user anything. -/
def Entry.isQuiet : Entry N → Prop
  | emitted _ _ => False
  | stopped => False
  | _ => True

/-- A thread is between two calls of `process_poll_event`. -/
def Phase.isTest : Phase N → Bool
  | test => true
  | _ => false

/-- A node, and the threads that have tested `running` since it was stopped. -/
structure Stopping (N : Nat) where
  node : Node N
  tested : Ctl N → Bool

namespace Node

/-- The step is a test of the flag by the thread `m`, in a node that has been stopped. -/
def testsStop (s : Node N) (m : Ctl N) : Step N → Bool
  | .mux m' _ => m' = m && !s.running && (s.muxes m).phase.isTest
  | _ => false

/-- An entry that tells the user something comes before every `stop`. -/
def BeforeStop : Entry N → History N → Prop
  | .emitted _ _, h => .stopped ∉ h
  | _, _ => True

/-- The invariant: once the node is stopped, no thread is about to tell the user anything. -/
structure Silent (s : Node N) : Prop where
  notStopped : s.running = true → .stopped ∉ s.history
  notAbout : s.running = false → ∀ m, ¬ Mux.aboutToEmit (s.muxes m)
  before : Transition.Justified BeforeStop s.history

section

variable {transports : List Transport} {m : Ctl N} {ps : Processors} {id : ResourceId}

theorem isQuiet_departures {done : Action Processors} {e : Entry N}
    (he : e ∈ departures transports m ps done id) : e.isQuiet := by
  obtain ⟨t, ps', -, -, -, -, rfl⟩ := mem_departures.1 he
  trivial

theorem isQuiet_postEntries {p : Post} {done : Action Processors} {e : Entry N}
    (he : e ∈ postEntries transports m ps p done) : e.isQuiet := by
  rcases mem_postEntries.1 he with ⟨id, -, he⟩ | ⟨a, -, he⟩ | ⟨a, -, rfl⟩ | rfl
  · exact isQuiet_departures he
  · obtain ⟨t, ps', -, -, rfl⟩ := mem_registrations.1 he
    trivial
  · trivial
  · trivial

/-- Only two commands are handed to the event callback. -/
theorem not_emit_processCommand {c : WakerCommand} {env : CommandEnv} (hc : c.isEvent = false)
    (e : NodeEvent) : .emit e ∉ (processCommand transports ps c env).effects := by
  intro he
  cases (processCommand_spec transports ps c env).effects _ he with
  | emit h =>
      rw [hc] at h
      cases h

theorem not_emit_acceptTurn {t : Transport} {l : t.LocalResource} {env : AcceptEnv}
    (e : NodeEvent) : .emit e ∉ (Driver.acceptTurn l id env).effects := by
  intro he
  obtain ⟨payload, hpayload⟩ := Driver.localAcceptTurn_eq t l
  have hturn := Driver.acceptTurn_spec hpayload id env
  generalize Driver.acceptTurn l id env = turn at hturn he
  cases hturn with
  | sent haccept hlocal hremote => cases List.mem_singleton.1 he
  | noAddr haccept hlocal => cases he
  | noId haccept hlocal hremote => cases he
  | nothing haccept => cases he

end

/-! ## Every step keeps the invariant -/

section

variable {s s' : Node N} {m : Ctl N} {x : Mux N}

/-- Only quiet entries are added, and no thread comes to be about to speak. -/
theorem Silent.of_quiet (h : s.Silent) (entries : History N) (hrunning : s'.running = s.running)
    (hhistory : s'.history = entries ++ s.history) (hquiet : ∀ e ∈ entries, e.isQuiet)
    (habout : s.running = false → ∀ m, ¬ Mux.aboutToEmit (s'.muxes m)) : s'.Silent where
  notStopped hrun hmem := by
    rw [hhistory] at hmem
    rcases List.mem_append.1 hmem with hmem | hmem
    · exact hquiet _ hmem
    · exact h.notStopped (hrunning ▸ hrun) hmem
  notAbout hrun := habout (hrunning ▸ hrun)
  before := by
    rw [hhistory]
    refine h.before.append fun e he l' ↦ ?_
    have hq := hquiet e he
    cases e with
    | emitted m e => exact hq.elim
    | _ => trivial

/-- One thread changes, and is not about to speak where it was not before. -/
theorem notAbout_update (h : s.Silent) (hmuxes : s'.muxes = Function.update s.muxes m x)
    (hx : s.running = false → ¬ x.aboutToEmit) :
    s.running = false → ∀ m', ¬ Mux.aboutToEmit (s'.muxes m') := by
  intro hrun m'
  rw [hmuxes]
  by_cases hm : m' = m
  · subst hm
    rw [Function.update_self]
    exact hx hrun
  · rw [Function.update_of_ne hm]
    exact h.notAbout hrun m'

end

variable [NeZero N] {transports : List Transport} {s s' : Node N} {m : Ctl N} {a : Answers}

theorem Silent.perform {pending : List (Pending N)} {tasks : List Task} {e : Effect} (h : s.Silent)
    (hphase : (s.muxes m).phase = .busy (.effect e :: pending) tasks) :
    (s.perform m pending tasks e).Silent := by
  have hset : ∀ pending', (∀ e, .effect (.emit e) ∈ pending' → .effect (.emit e) ∈ pending) →
      s.running = false →
        ∀ m', ¬ Mux.aboutToEmit ((s.setPhase m (.busy pending' tasks)).muxes m') := by
    intro pending' hsub
    refine notAbout_update h rfl fun hrun ⟨e', he'⟩ ↦ h.notAbout hrun m ⟨e', ?_⟩
    rw [hphase]
    exact List.mem_cons_of_mem _ (hsub e' he')
  have hself := hset pending fun _ he ↦ he
  cases e with
  | call cb reply =>
      exact h.of_quiet [.called m cb reply] rfl rfl
        (fun _ he ↦ List.mem_singleton.1 he ▸ trivial) hself
  | write w => exact h.of_quiet [] rfl rfl (fun _ he ↦ absurd he List.not_mem_nil) hself
  | post id c =>
      refine h.of_quiet [] rfl rfl (fun _ he ↦ absurd he List.not_mem_nil) ?_
      intro hrun m' habout
      rw [Node.perform, Mux.aboutToEmit, phase_enqueue] at habout
      refine hset (.wake (workerOf id) :: pending) (fun e he ↦ ?_) hrun m' habout
      rcases List.mem_cons.1 he with he | he
      · cases he
      · exact he
  | emit e =>
      have hrun : s.running = true := by
        by_contra hnot
        refine h.notAbout (Bool.eq_false_of_not_eq_true hnot) m ⟨e, ?_⟩
        rw [hphase]
        exact List.mem_cons_self
      constructor
      · intro _ hmem
        rcases List.mem_cons.1 hmem with hmem | hmem
        · cases hmem
        · exact h.notStopped hrun hmem
      · intro hrun'
        cases hrun.symm.trans hrun'
      · exact ⟨h.notStopped hrun, h.before⟩

theorem Silent.stepMux (h : s.Silent)
    (hheeds : s.running = false → Mux.speaks transports (s.muxes m) = false)
    (hs : MuxStep transports s m a s') : s'.Silent := by
  have hnone : ∀ e : Entry N, e ∈ ([] : History N) → e.isQuiet := fun _ he ↦
    absurd he List.not_mem_nil
  cases hs with
  | control hphase hc =>
      refine h.of_quiet [] rfl rfl hnone (notAbout_update h rfl ?_)
      rintro - ⟨e, he⟩
      rw [hc.pending_eq_nil.2] at he
      cases he
  | poll hphase hreports =>
      refine h.of_quiet [] rfl rfl hnone (notAbout_update h rfl ?_)
      rintro - ⟨e, he⟩
      cases he
  | effect hphase => exact h.perform hphase
  | wake hphase =>
      refine h.of_quiet [] rfl rfl hnone fun hrun m' habout ↦ ?_
      rw [Mux.aboutToEmit, phase_wake] at habout
      refine notAbout_update h rfl ?_ hrun m' habout
      rintro hrun ⟨e, he⟩
      refine h.notAbout hrun m ⟨e, ?_⟩
      rw [hphase]
      exact List.mem_cons_of_mem _ he
  | @remote id e p tasks hphase hevent =>
      refine h.of_quiet _ rfl rfl (fun _ he ↦ isQuiet_departures he) (notAbout_update h rfl ?_)
      rintro hrun ⟨e', he'⟩
      have hid : isRegistered transports (s.muxes m).processors id = false := by
        have hspeaks := hheeds hrun
        rw [Mux.speaks, hphase] at hspeaks
        cases hevent <;> exact hspeaks
      rw [Mux.pending_proceed, hevent.effects_of_not_registered hid] at he'
      cases he'
  | @post count p queue tasks hphase hqueue hcount =>
      refine h.of_quiet _ rfl rfl (fun _ he ↦ isQuiet_postEntries he) (notAbout_update h rfl ?_)
      rintro hrun ⟨e, he⟩
      have hc : p.command.isEvent = false := by
        have hspeaks := hheeds hrun
        simp only [Mux.speaks, hphase, hqueue, hcount, decide_true, Bool.true_and] at hspeaks
        exact hspeaks
      rw [Mux.pending_proceed] at he
      obtain ⟨e', he', heq⟩ := List.mem_map.1 he
      cases heq
      exact not_emit_processCommand hc e he'
  | @accept t l id tasks hphase =>
      refine h.of_quiet (_ ++ _) rfl rfl ?_ (notAbout_update h rfl ?_)
      · intro e he
        rcases List.mem_append.1 he with he | he
        · obtain ⟨_, -, rfl⟩ := List.mem_map.1 he
          trivial
        · obtain ⟨_, -, rfl⟩ := List.mem_map.1 he
          trivial
      · rintro - ⟨e, he⟩
        rw [pending_acceptPhase] at he
        obtain ⟨e', he', heq⟩ := List.mem_map.1 he
        cases heq
        exact not_emit_acceptTurn e he'

/-- **Every step keeps the invariant**, if a thread that goes on after `stop` has nothing to
tell. -/
theorem Silent.step {b : Step N} (h : s.Silent)
    (hstop : b = .stop → ∀ m, ¬ Mux.aboutToEmit (s.muxes m))
    (hmux : ∀ m a, b = .mux m a → (s.muxes m).phase.disconnected = false → s.running = false →
      Mux.speaks transports (s.muxes m) = false)
    (hs : s.step transports b = some s') : s'.Silent := by
  cases b with
  | generate resourceType t =>
      rw [Node.step] at hs
      split at hs
      · cases hs
        cases resourceType <;> exact ⟨h.notStopped, h.notAbout, h.before⟩
      · cases hs
  | enqueue m c =>
      cases hs
      exact ⟨h.notStopped, fun hrun m' habout ↦
        h.notAbout hrun m' (habout.of_phase (phase_enqueue c m')), h.before⟩
  | wake m =>
      rw [Node.step] at hs
      split at hs
      · cases hs
        exact ⟨h.notStopped, fun hrun m' habout ↦
          h.notAbout hrun m' (habout.of_phase (phase_wake m')), h.before⟩
      · cases hs
  | stop =>
      cases hs
      exact ⟨fun hrun ↦ absurd hrun Bool.false_ne_true, fun _ ↦ hstop rfl, trivial, h.before⟩
  | mux m a =>
      have hstep := stepMux_cases hs
      exact h.stepMux (hmux m a rfl hstep.connected) hstep

/-- **The test of the flag**: a thread that makes it in a node that has been stopped is gone. -/
theorem disconnected_of_test {b : Step N} (hs : s.step transports b = some s')
    (h : s.testsStop m b = true) : (s'.muxes m).phase.disconnected = true := by
  cases b with
  | mux m' a =>
      simp only [testsStop, Bool.and_eq_true, decide_eq_true_eq, Bool.not_eq_true'] at h
      obtain ⟨⟨rfl, hstopped⟩, htest⟩ := h
      have hphase : (s.muxes m').phase = .test := by
        cases hphase : (s.muxes m').phase with
        | test => rfl
        | _ =>
            rw [hphase] at htest
            cases htest
      rw [Node.step, stepMux, hphase, hstopped] at hs
      cases hs
      rw [muxes_setPhase, Function.update_self]
      rfl
  | _ => cases h

end Node

namespace Stopping

open Node

/-- `create_node_handler` -/
def new (N : Nat) : Stopping N := ⟨.new N, fun _ ↦ false⟩

variable [NeZero N] (transports : List Transport)

/-- A step of the node. -/
def step (o : Stopping N) (b : Step N) : Option (Stopping N) :=
  (o.node.step transports b).map fun node ↦ ⟨node, fun m ↦ o.tested m || o.node.testsStop m b⟩

/-- `stop` comes when no thread is about to tell the user anything, and until its next test of the
flag no thread comes to anything that can. -/
def HeedsStop (o : Stopping N) : Step N → Prop
  | .stop => ∀ m, ¬ Mux.aboutToEmit (o.node.muxes m)
  | .mux m _ => o.node.running = false → o.tested m = false →
      Mux.speaks transports (o.node.muxes m) = false
  | _ => True

/-- The invariant: the node is silent once it is stopped, and whoever has tested the flag since
then is gone. -/
structure Heeded (o : Stopping N) : Prop where
  silent : o.node.Silent
  gone : ∀ m, o.tested m = true → (o.node.muxes m).phase.disconnected = true

theorem Heeded.step {o o' : Stopping N} {b : Step N} (h : o.Heeded)
    (hheeds : o.HeedsStop transports b) (hs : o.step transports b = some o') : o'.Heeded := by
  obtain ⟨node, hnode, rfl⟩ := Option.map_eq_some_iff.1 hs
  constructor
  · refine h.silent.step (fun hb ↦ ?_) (fun m a hb hconnected ↦ ?_) hnode
    · subst hb
      exact hheeds
    · subst hb
      -- a thread that takes a step has not tested the flag since `stop`
      refine fun hrun ↦ hheeds hrun (Bool.eq_false_of_not_eq_true fun htested ↦ ?_)
      rw [h.gone m htested] at hconnected
      cases hconnected
  · intro m hm
    rcases Bool.or_eq_true_iff.1 hm with htested | htests
    · exact disconnected_step hnode (h.gone m htested)
    · exact disconnected_of_test hnode htests

end Stopping

namespace Node

end Node

end MessageIo
