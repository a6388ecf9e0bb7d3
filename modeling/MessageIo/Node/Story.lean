import MessageIo.Network.EventOrder
import MessageIo.Node.Gone

/-!
# The story of a remote in a node

Whoever drives a node is told about a remote by the thread of one worker, in between the
events of all the others.  Read in order, and for one remote at a time, what the callback is
told is a story in the sense of `Driver.Story`, that of a single driver: an opening, messages
and a disconnection, or nothing but a failed connection.

The invariant behind this says what is still to come.  A thread stands somewhere in the story
of the remote (`Mux.stage`), and whatever fits from there on fits behind all that was told and
is about to be told (`Fits`).  A thread that has come to a call which does not return says no
more, wherever its drivers stand.
-/

namespace MessageIo

open Driver

variable {N : Nat}

/-! ## What is told -/

theorem filterMap_cons_toList {α β : Type} (f : α → Option β) (a : α) (as : List α) :
    (a :: as).filterMap f = (f a).toList ++ as.filterMap f := by
  rw [List.filterMap_cons]
  cases f a <;> rfl

/-- The event of an entry, if it is one about `id`. -/
def Entry.eventAbout (id : ResourceId) : Entry N → Option NetEvent
  | .emitted _ e => Driver.eventAbout id (.emit e)
  | _ => none

/-- What the callback has been told about a remote, the oldest first. -/
def History.tale (h : History N) (id : ResourceId) : List NetEvent :=
  h.reverse.filterMap (Entry.eventAbout id)

theorem History.tale_append (id : ResourceId) (h h' : History N) :
    tale (h' ++ h) id = h.tale id ++ h'.tale id := by
  rw [tale, List.reverse_append, List.filterMap_append, tale, tale]

/-- Entries that are no network events add nothing. -/
theorem History.tale_eq_nil {id : ResourceId} {h : History N} (hquiet : Node.QuietAbout id h) :
    h.tale id = [] := by
  refine List.filterMap_eq_nil_iff.2 fun entry hentry ↦ ?_
  rw [List.mem_reverse] at hentry
  cases entry with
  | emitted m event =>
      cases event with
      | waker c => rfl
      | network e => exact if_neg (hquiet m e hentry)
  | _ => rfl

/-- The event of a pending effect, if it is one about `id`. -/
def Pending.eventAbout (id : ResourceId) : Pending N → Option NetEvent
  | .effect e => Driver.eventAbout id e
  | .wake _ => none

/-- What a thread is about to tell of a remote. -/
def Phase.untold (φ : Phase N) (id : ResourceId) : List NetEvent :=
  φ.pending.filterMap (Pending.eventAbout id)

theorem Phase.untold_of_pending {φ : Phase N} (h : φ.pending = []) (id : ResourceId) :
    φ.untold id = [] := by
  rw [untold, h, List.filterMap_nil]

theorem Phase.untold_of_effects {φ : Phase N} {es : List Effect}
    (h : φ.pending = es.map .effect) (id : ResourceId) : φ.untold id = eventsOf id es := by
  rw [untold, h, List.filterMap_map]
  rfl

/-- A thread has come to a call that does not return. -/
def Phase.halts : Phase N → Bool
  | busy _ (.halt _ :: _) => true
  | panicked _ => true
  | _ => false

theorem Phase.halts_busy (pending pending' : List (Pending N)) (tasks : List Task) :
    (busy pending tasks).halts = (busy pending' tasks).halts := by
  cases tasks with
  | nil => rfl
  | cons task tasks => cases task <;> rfl

/-- Where a thread stands in the story of a remote. -/
def Mux.stage (x : Mux N) (t : Transport) (id : ResourceId) : Stage :=
  if x.phase.halts then .absent else (x.processors t).stage id

theorem Mux.stage_of_halts {x : Mux N} (h : x.phase.halts = true) (t : Transport)
    (id : ResourceId) : x.stage t id = .absent := if_pos h

theorem Mux.stage_of_runs {x : Mux N} (h : x.phase.halts = false) (t : Transport)
    (id : ResourceId) : x.stage t id = (x.processors t).stage id :=
  if_neg (by rw [h]; exact Bool.false_ne_true)

/-- A thread stands where its drivers do, or nowhere. -/
theorem Mux.stage_cases (x : Mux N) (t : Transport) (id : ResourceId) :
    x.stage t id = .absent ∨ x.stage t id = (x.processors t).stage id := by
  cases h : x.phase.halts with
  | true => exact .inl (stage_of_halts h t id)
  | false => exact .inr (stage_of_runs h t id)

/-- From nowhere nothing comes, and that fits everywhere. -/
theorem Driver.Story.of_absent {es : List NetEvent} (h : Story .absent es) (σ : Stage) :
    Story σ es := by
  cases h
  exact .nil σ

namespace Node

variable [NeZero N]

/-- What has been told about a remote, and what its worker is about to tell. -/
def tale (s : Node N) (id : ResourceId) : List NetEvent :=
  s.history.tale id ++ (s.muxes (workerOf id)).phase.untold id

/-- **Whatever fits from where the worker stands** fits behind what was told and is about to be:
`σ` is where the story began. -/
def Fits (s : Node N) (t : Transport) (id : ResourceId) (σ : Stage) : Prop :=
  ∀ rest, plot id ((s.muxes (workerOf id)).stage t id) rest →
    Story σ (s.tale id ++ eventsOf id rest)

/-- **The stories of all remotes** are told from their registration on. -/
structure Recounted (s : Node N) : Prop where
  remote : ∀ m t a, .registered m t a ∈ s.history → a.id.resourceType = .remote
  fits : ∀ m t a, .registered m t a ∈ s.history →
    s.Fits t a.id (.pending ⟨a.id, a.addr⟩ a.listener)

variable {transports : List Transport} {s s' : Node N} {m : Ctl N} {a : Answers}

/-- **Nothing is told of a remote before it is registered.** -/
theorem Owned.tale_eq_nil (h : s.Owned transports) {id : ResourceId}
    (hnone : ∀ m t a, .registered m t a ∈ s.history → a.id ≠ id) : s.tale id = [] := by
  have htold : QuietAbout id s.history := by
    rintro m e he rfl
    obtain ⟨later, earlier, heq, m', t, a, ha, hid, -⟩ := h.caused.of_mem he
    refine hnone m' t a ?_ hid
    rw [heq]
    exact List.mem_append_right _ (List.mem_cons_of_mem _ ha)
  have huntold : (s.muxes (workerOf id)).phase.untold id = [] := by
    refine List.filterMap_eq_nil_iff.2 fun e he ↦ ?_
    cases e with
    | wake m => rfl
    | effect e =>
        cases e with
        | emit event =>
            cases event with
            | waker c => rfl
            | network e =>
                obtain ⟨t, a, ha, hid, -⟩ := h.emits _ e he
                refine if_neg ?_
                rw [← hid]
                exact hnone _ t a ha
        | _ => rfl
  rw [tale, History.tale_eq_nil htold, huntold, List.append_nil]

/-! ## What a call tells -/

section Call

variable {ps : Processors} {t : Transport} {id : ResourceId}

omit [NeZero N] in
/-- A call that tells nothing keeps to the story, if its drivers end up no further on. -/
theorem follows_of_quiet {p : Action Processors} {σ : Stage} (hquiet : eventsOf id p.effects = [])
    (hstage : ∀ ps', p.result = .ok ps' → (ps' t).stage id = .absent ∨ (ps' t).stage id = σ) :
    p.Follows (plot id σ) fun ps' ↦ plot id ((ps' t).stage id) := by
  constructor
  · intro ps' hres rest hrest
    rw [plot, eventsOf_append, hquiet, List.nil_append]
    rcases hstage ps' hres with habsent | hsame
    · rw [plot, habsent] at hrest
      exact Story.of_absent hrest σ
    · rwa [plot, hsame] at hrest
  · intro x _
    rw [plot, hquiet]
    exact Story.nil σ

omit [NeZero N] in
theorem eventsOf_processCommand (transports : List Transport) (ps : Processors) (c : WakerCommand)
    (env : CommandEnv) (id : ResourceId) :
    eventsOf id (processCommand transports ps c env).effects = [] := by
  refine eventsOf_eq_nil fun e he ↦ ?_
  cases (processCommand_spec transports ps c env).effects e he <;> rfl

omit [NeZero N] in
/-- **A command keeps to the story of a remote** that it does not register. -/
theorem follows_processCommand {c : WakerCommand} (env : CommandEnv) (t : Transport)
    (hc : ∀ a, c.arrival = some a → a.id ≠ id) :
    (processCommand transports ps c env).Follows (plot id ((ps t).stage id))
      fun ps' ↦ plot id ((ps' t).stage id) := by
  refine follows_of_quiet (eventsOf_processCommand ..) fun ps' hres ↦ ?_
  cases hr : (ps' t).remote id with
  | none => exact .inl (stage_absent hr)
  | some r =>
      rcases ((processCommand_spec transports ps c env).returns ps' hres).remote_cases hr with
        hsame | ⟨a, harrival, -, hid, -⟩
      · exact .inr (stage_congr (hr.trans hsame.symm))
      · exact absurd hid (hc a harrival)

omit [NeZero N] in
/-- A remote that a command has registered is pending. -/
theorem stage_of_arrival {c : WakerCommand} {env : CommandEnv} {a : Arrival} {ps' : Processors}
    (harrival : c.arrival = some a) (hget : getProcessor transports a.id = .ok t)
    (hres : (processCommand transports ps c env).result = .ok ps') :
    (ps' t).stage a.id = .pending ⟨a.id, a.addr⟩ a.listener := by
  cases (processCommand_spec transports ps c env).returns ps' hres with
  | @registers a' t' r harrival' hget' hsource =>
      cases harrival.symm.trans harrival'
      cases hget.symm.trans hget'
      have hreg : ((ps t).withRemote a r).remote a.id = some ⟨r, .new a.addr a.listener⟩ :=
        ResourceRegistry.get_register_self ..
      rw [Function.update_self]
      exact stage_pending hreg rfl
  | closes hc hget' =>
      subst hc
      cases harrival
  | listens hc hremote =>
      subst hc
      cases harrival
  | keeps hnone => cases hnone.symm.trans harrival

omit [NeZero N] in
/-- **A poll event keeps to the story of every remote.** -/
theorem RemoteEvent.follows {id' : ResourceId} {e : PollEvent} {p : Action Processors}
    (h : RemoteEvent transports ps a id' e p) (hid : id.resourceType = .remote)
    (hget : getProcessor transports id = .ok t) :
    p.Follows (plot id ((ps t).stage id)) fun ps' ↦ plot id ((ps' t).stage id) := by
  by_cases heq : id' = id
  · subst heq
    have hreturn : ∀ d : Driver t.RemoteResource t.LocalResource,
        (pure (Function.update ps t d) : Action Processors).Follows (plot id' (d.stage id'))
          fun ps' ↦ plot id' ((ps' t).stage id') := by
      intro d
      refine Proc.Follows.of_pure fun rest hrest ↦ ?_
      rwa [Function.update_self] at hrest
    cases h with
    | read _ =>
        rw [processNetworkRead, hget, Proc.ofExcept_ok_bind]
        exact (follows_processRead (ps t) hid id' _ _ _).bind fun d _ ↦ hreturn d
    | write =>
        rw [processNetworkWrite, hget, Proc.ofExcept_ok_bind]
        -- every adapter has the `ready_to_write` of the trait
        have hready : ∀ r : t.RemoteResource, Remote.readyToWrite r = true := by
          cases t <;> exact fun _ ↦ rfl
        exact (follows_processWrite (ps t) hready id' id' _).bind fun d _ ↦ hreturn d
  · refine follows_of_quiet (eventsOf_eq_nil fun e' he' ↦ ?_) fun ps' hres ↦ .inr ?_
    · obtain ⟨event, rfl, hevent⟩ := h.spec.effects e' he'
      refine if_neg ?_
      rwa [hevent]
    · exact stage_congr (((h.spec.returns ps' hres).evolves t).others id (Ne.symm heq))

omit [NeZero N] in
/-- **The call of a step keeps to the story of a remote** that it does not register. -/
theorem Calls.follows {p : Action Processors} (hp : Calls transports s m a p)
    (hid : id.resourceType = .remote) (hget : getProcessor transports id = .ok t)
    (hqueue : ∀ q ∈ (s.muxes m).queue, ∀ a, q.command.arrival = some a → a.id ≠ id) :
    p.Follows (plot id (((s.muxes m).processors t).stage id))
      fun ps ↦ plot id ((ps t).stage id) := by
  cases hp with
  | noProcessor hphase hnone => exact Proc.Follows.of_halt (plot_nil _ _)
  | remote hphase hevent => exact hevent.follows hid hget
  | @post count q queue tasks hphase hq =>
      refine follows_processCommand _ t (hqueue q ?_)
      rw [hq]
      exact List.mem_cons_self
  | @accept t' l id' tasks hphase =>
      refine follows_of_quiet (eventsOf_eq_nil fun e he ↦ ?_) fun ps' hres ↦ ?_
      · obtain ⟨payload, hpayload⟩ := Driver.localAcceptTurn_eq t' l
        have hturn := Driver.acceptTurn_spec hpayload id' (s.acceptEnv id' a.accept)
        change e ∈ (Driver.acceptTurn l id' (s.acceptEnv id' a.accept)).effects at he
        generalize Driver.acceptTurn l id' (s.acceptEnv id' a.accept) = turn at hturn he
        cases hturn with
        | sent haccept hlocal hremote =>
            cases List.mem_singleton.1 he
            rfl
        | noAddr haccept hlocal => cases he
        | noId haccept hlocal hremote => cases he
        | nothing haccept => cases he
      · obtain ⟨_, -, rfl⟩ := map_eq_ok.1 hres
        exact .inr rfl

end Call

/-! ## Steps of a thread -/

omit [NeZero N] in
/-- Control never leads away from a call that does not return. -/
theorem Control.halts {φ φ' : Phase N} (h : Control transports s m φ φ') :
    φ'.halts = true ∨ φ.halts = false := by
  cases h with
  | panic => exact .inl rfl
  | noProcessor hget => exact .inl rfl
  | _ => exact .inr rfl

section Step

variable {t : Transport} {id : ResourceId} {σ : Stage}

/-- Nothing is told, and the worker stands where it did, or nowhere. -/
theorem Fits.of_same (h : s.Fits t id σ) (htale : s'.tale id = s.tale id)
    (hstage : (s'.muxes (workerOf id)).stage t id = .absent ∨
      (s'.muxes (workerOf id)).stage t id = (s.muxes (workerOf id)).stage t id) :
    s'.Fits t id σ := by
  intro rest hrest
  rw [htale]
  rcases hstage with habsent | hsame
  · rw [plot, habsent] at hrest
    exact h rest (Story.of_absent hrest _)
  · exact h rest (by rwa [hsame] at hrest)

/-- Neither the phase of the worker nor its drivers change, and nothing is recorded about the
remote. -/
theorem Fits.of_quiet {later : History N} (h : s.Fits t id σ)
    (hhistory : s'.history = later ++ s.history) (hlater : QuietAbout id later)
    (hphase : (s'.muxes (workerOf id)).phase = (s.muxes (workerOf id)).phase)
    (hprocessors : (s'.muxes (workerOf id)).processors = (s.muxes (workerOf id)).processors) :
    s'.Fits t id σ := by
  refine h.of_same ?_ (.inr ?_)
  · rw [tale, hhistory, History.tale_append, History.tale_eq_nil hlater, List.append_nil, hphase,
      tale]
  · rw [Mux.stage, hphase, hprocessors, Mux.stage]

/-- What a call of the worker tells is behind the rest. -/
theorem tale_of_call {p : Action Processors} {later : History N}
    (hbefore : (s.muxes (workerOf id)).phase.pending = [])
    (hhistory : s'.history = later ++ s.history) (hlater : QuietAbout id later)
    (hpending : (s'.muxes (workerOf id)).phase.pending = p.effects.map .effect) :
    s'.tale id = s.tale id ++ eventsOf id p.effects := by
  rw [tale, hhistory, History.tale_append, History.tale_eq_nil hlater, List.append_nil,
    Phase.untold_of_effects hpending, tale, Phase.untold_of_pending hbefore, List.append_nil]

/-- **The worker makes a call** that keeps to the story. -/
theorem Fits.of_call {p : Action Processors} {later : History N} (h : s.Fits t id σ)
    (hp : p.Follows (plot id (((s.muxes (workerOf id)).processors t).stage id))
      fun ps ↦ plot id ((ps t).stage id))
    (hbefore : (s.muxes (workerOf id)).phase.pending = [])
    (hruns : (s.muxes (workerOf id)).phase.halts = false)
    (hhistory : s'.history = later ++ s.history) (hlater : QuietAbout id later)
    (hpending : (s'.muxes (workerOf id)).phase.pending = p.effects.map .effect)
    (hafter : p.result = .ok (s'.muxes (workerOf id)).processors ∨
      (s'.muxes (workerOf id)).phase.halts = true) : s'.Fits t id σ := by
  intro rest hrest
  rw [tale_of_call hbefore hhistory hlater hpending, List.append_assoc, ← eventsOf_append]
  refine h _ ?_
  rw [Mux.stage_of_runs hruns]
  -- a call that does not return is the last one that tells something
  have hlast : plot id .absent rest →
      plot id (((s.muxes (workerOf id)).processors t).stage id) (p.effects ++ rest) := by
    intro habsent
    have hempty : eventsOf id rest = [] := habsent
    rw [plot, eventsOf_append, hempty, List.append_nil]
    exact hp.effects_mem fun _ ↦ plot_nil _ _
  cases hhalts : (s'.muxes (workerOf id)).phase.halts with
  | true =>
      rw [Mux.stage_of_halts hhalts] at hrest
      exact hlast hrest
  | false =>
      rw [Mux.stage_of_runs hhalts] at hrest
      exact hp.1 _ (hafter.resolve_right (by rw [hhalts]; exact Bool.false_ne_true)) rest hrest

omit [NeZero N] in
/-- A call that does not return is a halt. -/
theorem proceed_or_halts (x : Mux N) (p : Action Processors) (tasks : List Task) :
    p.result = .ok (x.proceed p tasks).processors ∨ (x.proceed p tasks).phase.halts = true := by
  rw [Mux.proceed]
  cases p.result with
  | ok ps => exact .inl rfl
  | error y => exact .inr rfl

/-- An effect is performed: what was about to be told is told. -/
theorem Fits.perform {e : Effect} {pending : List (Pending N)} {tasks : List Task}
    (h : s.Fits t id σ)
    (hphase : (s.muxes (workerOf id)).phase = .busy (.effect e :: pending) tasks) :
    (s.perform (workerOf id) pending tasks e).Fits t id σ := by
  obtain ⟨pending', hphase', huntold⟩ : ∃ pending',
      ((s.perform (workerOf id) pending tasks e).muxes (workerOf id)).phase = .busy pending' tasks ∧
        pending'.filterMap (Pending.eventAbout id) = pending.filterMap (Pending.eventAbout id) := by
    cases e with
    | post id' c =>
        refine ⟨.wake (workerOf id') :: pending, ?_, rfl⟩
        rw [Node.perform, phase_enqueue, muxes_setPhase, Function.update_self]
    | _ =>
        refine ⟨pending, ?_, rfl⟩
        change (Function.update s.muxes _ _ _ : Mux N).phase = _
        rw [Function.update_self]
  have htold : (performed (workerOf id : Ctl N) e).tale id = (Driver.eventAbout id e).toList := by
    cases e with
    | emit event => exact (filterMap_cons_toList _ _ []).trans (List.append_nil _)
    | _ => rfl
  refine h.of_same ?_ (.inr ?_)
  · rw [tale, history_perform, History.tale_append, htold, Phase.untold, hphase',
      Phase.pending_busy, huntold, List.append_assoc, tale, Phase.untold, hphase,
      Phase.pending_busy,
      filterMap_cons_toList]
    rfl
  · rw [Mux.stage, Mux.stage, hphase, hphase', (drivers_perform e pending tasks _).1,
      Phase.halts_busy pending' (.effect e :: pending)]

/-- **Every step of a thread keeps the story of a remote** that it does not register. -/
theorem Fits.stepMux (h : s.Fits t id σ) (howned : s.Owned transports)
    (hid : id.resourceType = .remote) (hget : getProcessor transports id = .ok t)
    (hqueue : ∀ q ∈ (s.muxes m).queue, ∀ a, q.command.arrival = some a → a.id ≠ id)
    (hs : MuxStep transports s m a s') : s'.Fits t id σ := by
  obtain ⟨later, hhistory, hperforms⟩ := hs.history
  by_cases hm : m = workerOf id
  · subst hm
    have hsilent : (s.muxes (workerOf id)).phase.pending = [] → QuietAbout id later := by
      intro hpending m' e he
      have hmem := hperforms.emitted m' _ he
      rw [hpending] at hmem
      cases hmem
    have hself : ∀ {x : Mux N}, s'.muxes = Function.update s.muxes (workerOf id) x →
        s'.muxes (workerOf id) = x := by
      intro x hmuxes
      rw [hmuxes, Function.update_self]
    cases hs with
    | @control φ φ' hphase hc =>
        have hx := hself (muxes_setPhase φ')
        refine h.of_same ?_ ?_
        · rw [tale, hx, Phase.untold_of_pending hc.pending_eq_nil.2, tale,
            Phase.untold_of_pending ((congrArg Phase.pending hphase).trans hc.pending_eq_nil.1),
            history_setPhase]
        · rw [hx]
          rcases hc.halts with hhalts | hruns
          · exact .inl (Mux.stage_of_halts hhalts t id)
          · refine (Mux.stage_cases _ t id).imp_right fun hstage ↦ hstage.trans ?_
            rw [Mux.stage_of_runs ((congrArg Phase.halts hphase).trans hruns)]
    | poll hphase hreports =>
        have hx := hself (muxes_polled ..)
        have hpending := congrArg Phase.pending hphase
        refine h.of_same ?_ ?_
        · rw [tale, hx, Phase.untold_of_pending rfl, tale, Phase.untold_of_pending hpending]
          rfl
        · rw [hx]
          refine (Mux.stage_cases _ t id).imp_right fun hstage ↦ hstage.trans ?_
          rw [Mux.stage_of_runs (congrArg Phase.halts hphase)]
    | effect hphase => exact h.perform hphase
    | @wake m' pending tasks hphase =>
        have hphase' : (((s.setPhase (workerOf id) (.busy pending tasks)).wake m').muxes
            (workerOf id)).phase = .busy pending tasks := by
          rw [phase_wake, muxes_setPhase, Function.update_self]
        have hprocessors : (((s.setPhase (workerOf id) (.busy pending tasks)).wake m').muxes
            (workerOf id)).processors = (s.muxes (workerOf id)).processors :=
          (drivers_wake _).1.trans (drivers_setPhase _ _).1
        refine h.of_same ?_ (.inr ?_)
        · rw [tale, Phase.untold, hphase', tale, Phase.untold, hphase]
          rfl
        · rw [Mux.stage, Mux.stage, hphase, hphase', hprocessors,
            Phase.halts_busy pending (.wake m' :: pending)]
    | @remote id' e p tasks hphase hevent =>
        have hx := hself (muxes_processRemote transports s _ id' p tasks)
        have hcall : Calls transports s (workerOf id) a _ := .remote hphase hevent
        refine h.of_call (hcall.follows hid hget hqueue)
          (congrArg Phase.pending hphase) (congrArg Phase.halts hphase) hhistory
          (hsilent (congrArg Phase.pending hphase)) ?_ ?_
        · rw [hx, Mux.pending_proceed]
        · rw [hx]
          exact proceed_or_halts ..
    | @post count p queue tasks hphase hqueue' hcount =>
        have hx := hself (muxes_processPost ..)
        have hcall : Calls transports s (workerOf id) a _ := .post hphase hqueue'
        refine h.of_call (hcall.follows hid hget hqueue)
          (congrArg Phase.pending hphase) (congrArg Phase.halts hphase) hhistory
          (hsilent (congrArg Phase.pending hphase)) ?_ ?_
        · rw [hx, Mux.pending_proceed]
        · rw [hx]
          exact proceed_or_halts ..
    | @accept t' l id' tasks hphase =>
        have hx := hself (muxes_setPhase (acceptPhase
          (Driver.acceptTurn l id' (s.acceptEnv id' a.accept)) t' l id' tasks))
        have hcall : Calls transports s (workerOf id) a _ := .accept hphase
        refine h.of_call (hcall.follows hid hget hqueue)
          (congrArg Phase.pending hphase) (congrArg Phase.halts hphase) hhistory
          (hsilent (congrArg Phase.pending hphase)) ?_ ?_
        · rw [show (s.acceptFrom _ t' l id' tasks a.accept).muxes (workerOf id) = _ from hx]
          exact pending_acceptPhase ..
        · rw [show (s.acceptFrom _ t' l id' tasks a.accept).muxes (workerOf id) = _ from hx]
          change Except.map _ (Driver.acceptTurn l id' (s.acceptEnv id' a.accept)).result = _ ∨
            (acceptPhase _ t' l id' tasks : Phase N).halts = true
          rw [acceptPhase]
          cases (Driver.acceptTurn l id' (s.acceptEnv id' a.accept)).result with
          | ok more => exact .inl rfl
          | error y => exact .inr rfl
  · obtain ⟨hphase, hprocessors⟩ := hs.others (Ne.symm hm)
    refine h.of_quiet hhistory (fun m' e he heq ↦ hm ?_) hphase hprocessors
    -- who tells of a remote is its worker
    obtain ⟨t', a', ha', hid', -⟩ := howned.emits m e (hperforms.emitted m' _ he)
    rw [(howned.registered m t' a' ha').1, hid', heq]

end Step

/-! ## Registrations -/

/-- **A stream is registered by a command** that a worker takes from its queue. -/
theorem MuxStep.mem_registered {m' : Ctl N} {t : Transport} {b : Arrival}
    (hs : MuxStep transports s m a s') (hb : .registered m' t b ∈ s'.history) :
    .registered m' t b ∈ s.history ∨ m' = m ∧ ∃ count p queue tasks ps',
      (s.muxes m).phase = .busy [] (.drain count :: tasks) ∧ (s.muxes m).queue = p :: queue ∧
        p.command.arrival = some b ∧ getProcessor transports b.id = .ok t ∧
          (processCommand transports (s.muxes m).processors p.command
            (a.command.withStream ⟨s.streams⟩)).result = .ok ps' ∧
            s' = s.processPost transports m { s.muxes m with queue } p
              (.drain (count + 1) :: tasks) a.command := by
  cases hs with
  | control hphase hc => exact .inl hb
  | poll hphase hreports => exact .inl hb
  | wake hphase => exact .inl hb
  | @effect e pending tasks hphase =>
      rw [history_perform] at hb
      exact .inl (mem_history_of_perform hb (fun _ ↦ by rintro ⟨⟩) fun _ _ ↦ by rintro ⟨⟩)
  | @remote id e p tasks hphase hevent =>
      refine .inl ((List.mem_append.1 hb).resolve_left fun h ↦ ?_)
      obtain ⟨t, ps', -, -, -, -, heq⟩ := mem_departures.1 h
      cases heq
  | @post count p queue tasks hphase hqueue hcount =>
      rcases List.mem_append.1 hb with hb | hb
      · right
        rcases mem_postEntries.1 hb with ⟨id, -, h⟩ | ⟨b', harrival, h⟩ | ⟨b', -, h⟩ | h
        · obtain ⟨t, ps', -, -, -, -, heq⟩ := mem_departures.1 h
          cases heq
        · obtain ⟨t', ps', hget, hres, heq⟩ := mem_registrations.1 h
          cases heq
          exact ⟨rfl, count, p, queue, tasks, ps', hphase, hqueue, harrival, hget, hres, rfl⟩
        · cases h
        · cases h
      · exact .inl hb
  | @accept t' l id tasks hphase =>
      refine .inl ((List.mem_append.1 hb).resolve_left fun h ↦ ?_)
      rcases List.mem_append.1 h with h | h
      · obtain ⟨_, -, heq⟩ := List.mem_map.1 h
        cases heq
      · obtain ⟨_, -, heq⟩ := List.mem_map.1 h
        cases heq

/-- The story of a remote begins when its worker registers it. -/
theorem Fits.of_registration {t : Transport} {b : Arrival} {count : Nat} {p : Post}
    {queue : List Post} {tasks : List Task} {ps' : Processors} (hfresh : s.tale b.id = [])
    (hphase : (s.muxes (workerOf b.id)).phase = .busy [] (.drain count :: tasks))
    (harrival : p.command.arrival = some b) (hget : getProcessor transports b.id = .ok t)
    (hres : (processCommand transports (s.muxes (workerOf b.id)).processors p.command
      (a.command.withStream ⟨s.streams⟩)).result = .ok ps') :
    (s.processPost transports (workerOf b.id) { s.muxes (workerOf b.id) with queue } p
      (.drain (count + 1) :: tasks) a.command).Fits t b.id
        (.pending ⟨b.id, b.addr⟩ b.listener) := by
  have hx := congrFun (muxes_processPost transports s (workerOf b.id)
    { s.muxes (workerOf b.id) with queue } p (.drain (count + 1) :: tasks) a.command)
    (workerOf b.id)
  rw [Function.update_self] at hx
  have hquiet : QuietAbout b.id (postEntries transports (workerOf b.id : Ctl N)
      (s.muxes (workerOf b.id)).processors p (processCommand transports
        (s.muxes (workerOf b.id)).processors p.command (a.command.withStream ⟨s.streams⟩))) :=
    fun m' e he ↦ absurd rfl ((untold_postEntries he).2 m' (.network e))
  have htale : (s.processPost transports (workerOf b.id) { s.muxes (workerOf b.id) with queue } p
      (.drain (count + 1) :: tasks) a.command).tale b.id = [] := by
    rw [tale_of_call (congrArg Phase.pending hphase) rfl hquiet (by rw [hx, Mux.pending_proceed]),
      hfresh, eventsOf_processCommand, List.append_nil]
  intro rest hrest
  rw [htale, List.nil_append]
  rcases Mux.stage_cases _ t b.id with habsent | hstage
  · rw [plot, habsent] at hrest
    exact Story.of_absent hrest _
  · rw [plot, hstage, hx, Mux.proceed, hres] at hrest
    rwa [stage_of_arrival harrival hget hres] at hrest

/-- **Every step of a thread keeps the stories.** -/
theorem Recounted.stepMux (h : s.Recounted) (hroutes : s.Routes) (htokens : s.Tokens)
    (howned : s.Owned transports) (hs : MuxStep transports s m a s') : s'.Recounted := by
  constructor
  · intro m' t b hb
    rcases hs.mem_registered hb with hb | ⟨-, count, p, queue, tasks, ps', -, hqueue, harrival, -⟩
    · exact h.remote m' t b hb
    · refine ((hroutes.queued m p ?_).arrival b harrival).2
      rw [hqueue]
      exact List.mem_cons_self
  · intro m' t b hb
    rcases hs.mem_registered hb with
      hb | ⟨-, count, p, queue, tasks, ps', hphase, hqueue, harrival, hget, hres, rfl⟩
    · have hget := (howned.registered m' t b hb).2
      refine (h.fits m' t b hb).stepMux howned (h.remote m' t b hb) hget ?_ hs
      exact fun q hq b' hb' heq ↦ htokens.not_registered hq hb' m' t b hb heq.symm
    · have hmem : p ∈ (s.muxes m).queue := by
        rw [hqueue]
        exact List.mem_cons_self
      obtain rfl := ((hroutes.queued m p hmem).arrival b harrival).1
      have hfresh : s.tale b.id = [] :=
        howned.tale_eq_nil fun m' t' b' hb' ↦ htokens.not_registered hmem harrival m' t' b' hb'
      exact .of_registration hfresh hphase harrival hget hres

/-- **Every step of the node keeps them**, if the user goes through `NodeHandler`. -/
theorem Recounted.step {b : Step N} (h : s.Recounted) (hroutes : s.Routes) (htokens : s.Tokens)
    (howned : s.Owned transports) (hs : s.step transports b = some s') : s'.Recounted := by
  have hquiet : ∀ {later : History N}, s'.history = later ++ s.history →
      (∀ m t a, .registered m t a ∈ later → False) → (∀ id, QuietAbout id later) →
      (∀ m, (s'.muxes m).phase = (s.muxes m).phase) →
      (∀ m, (s'.muxes m).processors = (s.muxes m).processors) → s'.Recounted := by
    intro later hhistory hnone hlater hphase hprocessors
    have hold : ∀ {m t a}, .registered m t a ∈ s'.history → .registered m t a ∈ s.history := by
      intro m t a ha
      rw [hhistory] at ha
      exact (List.mem_append.1 ha).resolve_left (hnone m t a)
    exact ⟨fun m t a ha ↦ h.remote m t a (hold ha), fun m t a ha ↦
      (h.fits m t a (hold ha)).of_quiet hhistory (hlater a.id) (hphase _) (hprocessors _)⟩
  have hnothing : (∀ m t a, .registered m t a ∈ ([] : History N) → False) ∧
      ∀ id, QuietAbout id ([] : History N) :=
    ⟨fun _ _ _ h ↦ absurd h List.not_mem_nil, fun _ _ _ h ↦ absurd h List.not_mem_nil⟩
  cases b with
  | generate resourceType t =>
      rw [Node.step] at hs
      split at hs
      · cases hs
        cases resourceType <;> exact hquiet rfl hnothing.1 hnothing.2 (fun _ ↦ rfl) fun _ ↦ rfl
      · cases hs
  | enqueue m c =>
      cases hs
      exact hquiet rfl hnothing.1 hnothing.2 (phase_enqueue c) fun m' ↦ (drivers_enqueue c m').1
  | wake m =>
      rw [Node.step] at hs
      split at hs
      · cases hs
        exact hquiet rfl hnothing.1 hnothing.2 phase_wake fun m' ↦ (drivers_wake m').1
      · cases hs
  | stop =>
      cases hs
      have hstopped : (∀ m t a, .registered m t a ∈ ([.stopped] : History N) → False) ∧
          ∀ id, QuietAbout id ([.stopped] : History N) := by
        constructor
        · intro m t a ha
          cases List.mem_singleton.1 ha
        · intro id m e he
          cases List.mem_singleton.1 he
      exact hquiet rfl hstopped.1 hstopped.2 (fun _ ↦ rfl) fun _ ↦ rfl
  | mux m a => exact h.stepMux hroutes htokens howned (stepMux_cases hs)

/-! ## What a story says -/

end Node

namespace Driver

variable {endpoint : Endpoint} {localId : Option ResourceId}

/-- The beginning of a story is a story. -/
theorem Story.of_append {σ : Stage} {es fs : List NetEvent} (h : Story σ (es ++ fs)) :
    Story σ es := by
  have htold : ∀ {endpoint es}, Told endpoint (es ++ fs) → Told endpoint es :=
    fun ⟨msgs, hmsgs⟩ ↦ ⟨msgs, (List.prefix_append _ _).trans hmsgs⟩
  cases σ with
  | absent => exact (List.append_eq_nil_iff.1 h).1
  | ready endpoint => exact htold h
  | pending endpoint localId =>
      cases es with
      | nil => exact .inl rfl
      | cons e es =>
          rcases h with h | ⟨hnone, h⟩ | ⟨rest, h, hrest⟩
          · cases h
          · obtain ⟨rfl, hnil⟩ := List.cons_eq_cons.1 h
            rw [(List.append_eq_nil_iff.1 hnil).1]
            exact .inr (.inl ⟨hnone, rfl⟩)
          · obtain ⟨rfl, rfl⟩ := List.cons_eq_cons.1 h
            exact .inr (.inr ⟨es, rfl, htold hrest⟩)

end Driver

namespace Node

variable [NeZero N] {transports : List Transport} {s : Node N}

/-! ## Every run -/

end Node

end MessageIo
