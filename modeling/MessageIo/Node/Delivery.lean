import MessageIo.Lib.Runs
import MessageIo.Node.Story

/-!
# Commands and streams arrive

A command that is posted to a controller is taken from its queue once, in the order of the
posts, whoever posted it and whatever happens in between, until the thread of the controller ends
(`commands_in_order`).

A stream with an id travels in such commands.  `Tokens` says that it is in no two places at
once; here it is in one, the registry of its worker included, until it is deregistered there,
unless its worker has ended or has come to a call that does not return (`no_stream_is_lost`).
-/

namespace MessageIo

open Driver

variable {N : Nat}

/-! ## Commands -/

/-- The post that an entry has taken from the queue of `m`. -/
def Entry.taken [DecidableEq (Ctl N)] (m : Ctl N) : Entry N → Option Post
  | .dequeued m' p _ => if m' = m then some p else none
  | _ => none

/-- The posts that the controller `m` has taken from its queue, the oldest first. -/
def History.taken (h : History N) (m : Ctl N) : List Post :=
  h.reverse.filterMap (Entry.taken m)

theorem History.taken_append (m : Ctl N) (h h' : History N) :
    taken (h' ++ h) m = h.taken m ++ h'.taken m := by
  rw [taken, List.reverse_append, List.filterMap_append, taken, taken]

theorem History.taken_eq_nil {m : Ctl N} {h : History N}
    (hnone : ∀ m' p found, .dequeued m' p found ∉ h) : h.taken m = [] := by
  refine List.filterMap_eq_nil_iff.2 fun entry hentry ↦ ?_
  rw [List.mem_reverse] at hentry
  cases entry with
  | dequeued m' p found => exact absurd hentry (hnone m' p found)
  | _ => rfl

/-- A thread takes nothing more from its queue: it has ended, or has come to a call that does not
return. -/
def Phase.lost (φ : Phase N) : Bool := φ.halts || φ.disconnected

theorem Phase.lost_of_halts {φ : Phase N} (h : φ.halts = true) : φ.lost = true := by
  rw [lost, h, Bool.true_or]

theorem Phase.lost_of_disconnected {φ : Phase N} (h : φ.disconnected = true) : φ.lost = true := by
  rw [lost, h, Bool.or_true]

namespace Node

variable [NeZero N]

/-- What a step puts into the queue of `m`: a user posts, or a thread performs a post. -/
def posted (m : Ctl N) (s : Node N) : Step N → List Post
  | .enqueue m' c => if m' = m then [⟨c, c.target.any s.history.taught⟩] else []
  | .mux m' _ =>
      match (s.muxes m').phase with
      | .busy (.effect (.post id c) :: _) _ =>
          if workerOf id = m then [⟨c, c.target.any s.history.taught⟩] else []
      | _ => []
  | _ => []

/-- What has been taken from the queue of `m`, and what is there. -/
def ledger (m : Ctl N) (s : Node N) : List Post := s.history.taken m ++ (s.muxes m).queue

/-- Posts are put at the end of the queue of `m`.  A thread that has ended gets none of them, and
may have dropped what it had. -/
structure Queued (m : Ctl N) (s s' : Node N) (new : List Post) : Prop where
  connected : (s'.muxes m).phase.disconnected = false →
    (s'.muxes m).queue = (s.muxes m).queue ++ new
  disconnected : (s'.muxes m).phase.disconnected = true → (s'.muxes m).queue <+: (s.muxes m).queue

variable {transports : List Transport} {s s' : Node N} {m : Ctl N} {a : Answers}

omit [NeZero N] in
theorem queued_of_same (h : (s'.muxes m).queue = (s.muxes m).queue) : Queued m s s' [] where
  connected _ := h.trans (List.append_nil _).symm
  disconnected _ := h ▸ List.prefix_rfl

omit [NeZero N] in
theorem queue_update {x : Mux N} {m' : Ctl N} (hmuxes : s'.muxes = Function.update s.muxes m' x)
    (hx : x.queue = (s.muxes m').queue) (m : Ctl N) : (s'.muxes m).queue = (s.muxes m).queue := by
  rcases muxes_update_cases hmuxes m with h | ⟨rfl, h⟩
  · rw [h]
  · rw [h, hx]

omit [NeZero N] in
/-- A thread that comes to its end drops what waits. -/
theorem queued_setPhase (s : Node N) (m' : Ctl N) (φ : Phase N) (m : Ctl N) :
    Queued m s (s.setPhase m' φ) [] := by
  rcases muxes_update_cases (muxes_setPhase (s := s) (m := m') φ) m with h | ⟨rfl, h⟩
  · exact queued_of_same (congrArg Mux.queue h)
  · constructor
    · rw [h, List.append_nil]
      exact fun hφ ↦ Phase.keeps_of_connected hφ _
    · rw [h]
      intro hφ
      change φ.keeps _ <+: _
      rw [Phase.keeps_of_disconnected hφ]
      exact List.nil_prefix

omit [NeZero N] in
/-- A post is put at the end, if there is somebody to take it. -/
theorem queued_enqueue (s : Node N) (m' : Ctl N) (c : WakerCommand) (m : Ctl N) :
    Queued m s (s.enqueue m' c) (if m' = m then [⟨c, c.target.any s.history.taught⟩] else []) := by
  by_cases hm : m' = m
  · subst hm
    have hqueue : ((s.enqueue m' c).muxes m').queue = (s.muxes m').phase.keeps
        ((s.muxes m').queue ++ [⟨c, c.target.any s.history.taught⟩]) := by
      rw [muxes_enqueue, Function.update_self]
    rw [if_pos rfl]
    constructor
    · rw [phase_enqueue, hqueue]
      exact fun hphase ↦ Phase.keeps_of_connected hphase _
    · rw [phase_enqueue, hqueue]
      intro hphase
      rw [Phase.keeps_of_disconnected hphase]
      exact List.nil_prefix
  · rw [if_neg hm]
    refine queued_of_same ?_
    rw [muxes_enqueue, Function.update_of_ne (Ne.symm hm)]

omit [NeZero N] in
/-- What is put into a queue while nothing is taken is what its ledger gains. -/
theorem Queued.ledger {new : List Post} (h : Queued m s s' new) (later : History N)
    (hhistory : s'.history = later ++ s.history)
    (hnone : ∀ m' p found, .dequeued m' p found ∉ later) :
    ((s'.muxes m).phase.disconnected = false → s'.ledger m = s.ledger m ++ new) ∧
      ((s'.muxes m).phase.disconnected = true → s'.ledger m <+: s.ledger m) := by
  have htaken : s'.history.taken m = s.history.taken m := by
    rw [hhistory, History.taken_append, History.taken_eq_nil hnone, List.append_nil]
  rw [Node.ledger, Node.ledger, htaken, List.append_assoc]
  exact ⟨fun hphase ↦ congrArg _ (h.connected hphase),
    fun hphase ↦ (List.prefix_append_right_inj _).2 (h.disconnected hphase)⟩

/-- A thread that has no effect to perform posts nothing. -/
theorem posted_of_idle {m' : Ctl N} (h : (s.muxes m').phase.pending = []) (m : Ctl N)
    (a : Answers) : s.posted m (.mux m' a) = [] := by
  rw [posted]
  split
  · rename_i hphase
    rw [hphase] at h
    cases h
  · rfl

/-- What a thread performs is posted, if it is a post. -/
theorem queued_perform {e : Effect} {pending : List (Pending N)} {tasks : List Task} {m' : Ctl N}
    (hphase : (s.muxes m').phase = .busy (.effect e :: pending) tasks) (m : Ctl N) (a : Answers) :
    Queued m s (s.perform m' pending tasks e) (s.posted m (.mux m' a)) := by
  have hset : ∀ pending', ((s.setPhase m' (.busy pending' tasks)).muxes m).queue =
      (s.muxes m).queue :=
    fun pending' ↦ queue_update (muxes_setPhase (.busy pending' tasks)) rfl m
  cases e with
  | post id c =>
      simp only [posted, hphase]
      have hqueued := queued_enqueue
        (s.setPhase m' (.busy (.wake (workerOf id) :: pending) tasks)) (workerOf id) c m
      exact ⟨fun h ↦ (hqueued.connected h).trans (congrArg (· ++ _) (hset _)),
        fun h ↦ hset _ ▸ hqueued.disconnected h⟩
  | _ =>
      simp only [posted, hphase]
      exact queued_of_same (hset pending)

omit [NeZero N] in
/-- A command that is taken is recorded once. -/
theorem taken_postEntries (transports : List Transport) (m' : Ctl N) (ps : Processors) (p : Post)
    (done : Action Processors) (m : Ctl N) :
    (postEntries transports m' ps p done).taken m = if m' = m then [p] else [] := by
  have hdepartures : History.taken (p.command.target.toList.flatMap
      (departures transports m' ps done)) m = [] := by
    refine History.taken_eq_nil fun m'' p' found h ↦ ?_
    obtain ⟨id, -, h⟩ := List.mem_flatMap.1 h
    obtain ⟨t, ps', -, -, -, -, heq⟩ := mem_departures.1 h
    cases heq
  have hregistrations : History.taken (p.command.arrival.toList.flatMap
      (registrations transports m' done)) m = [] := by
    refine History.taken_eq_nil fun m'' p' found h ↦ ?_
    obtain ⟨a, -, h⟩ := List.mem_flatMap.1 h
    obtain ⟨t, ps', -, -, heq⟩ := mem_registrations.1 h
    cases heq
  have hcreated : History.taken ((arrivals done.effects).map (.created m')) m = [] := by
    refine History.taken_eq_nil fun m'' p' found h ↦ ?_
    obtain ⟨_, -, heq⟩ := List.mem_map.1 h
    cases heq
  rw [postEntries, History.taken_append, hdepartures, History.taken_append, hregistrations,
    History.taken_append, hcreated, List.append_nil, List.append_nil, List.append_nil]
  refine (filterMap_cons_toList _ _ []).trans ?_
  rw [List.filterMap_nil, List.append_nil, Entry.taken]
  split <;> rfl

omit [NeZero N] in
/-- A command that is taken from a queue goes from there to the history. -/
theorem ledger_post {p : Post} {queue : List Post} {tasks : List Task} {env : CommandEnv}
    {m' : Ctl N} (hqueue : (s.muxes m').queue = p :: queue) (m : Ctl N) :
    (s.processPost transports m' { s.muxes m' with queue } p tasks env).ledger m = s.ledger m := by
  have hrest : (s.muxes m).queue = (if m' = m then [p] else []) ++
      ((s.processPost transports m' { s.muxes m' with queue } p tasks env).muxes m).queue := by
    rw [muxes_processPost]
    by_cases hm : m' = m
    · subst hm
      rw [Function.update_self, Mux.queue_proceed, if_pos rfl]
      exact hqueue
    · rw [Function.update_of_ne (Ne.symm hm), if_neg hm, List.nil_append]
  rw [ledger, show (s.processPost transports m' { s.muxes m' with queue } p tasks env).history =
    _ ++ s.history from rfl, History.taken_append, taken_postEntries, List.append_assoc, ← hrest,
    ledger]

/-- **What a step does to a queue**: it puts posts at the end and takes the first one.  Nothing is
put there once its thread has ended. -/
theorem ledger_step {b : Step N} (hs : s.step transports b = some s') (m : Ctl N) :
    ((s'.muxes m).phase.disconnected = false → s'.ledger m = s.ledger m ++ s.posted m b) ∧
      ((s'.muxes m).phase.disconnected = true → s'.ledger m <+: s.ledger m) := by
  have hnothing : ∀ (m' : Ctl N) p found, .dequeued m' p found ∉ ([] : History N) :=
    fun _ _ _ ↦ List.not_mem_nil
  cases b with
  | generate resourceType t =>
      rw [Node.step] at hs
      split at hs
      · cases hs
        cases resourceType <;>
          exact (queued_of_same rfl).ledger [] rfl hnothing
      · cases hs
  | enqueue m' c =>
      cases hs
      have hqueued := queued_enqueue s m' c m
      exact Queued.ledger ⟨hqueued.connected, hqueued.disconnected⟩ [] rfl hnothing
  | wake m' =>
      rw [Node.step] at hs
      split at hs
      · cases hs
        refine (queued_of_same ?_).ledger [] rfl hnothing
        exact queue_update (muxes_wake (m := m')) rfl m
      · cases hs
  | stop =>
      cases hs
      refine Queued.ledger (queued_of_same rfl) [.stopped] rfl fun m' p found h ↦ ?_
      cases List.mem_singleton.1 h
  | mux m' a =>
      cases stepMux_cases hs with
      | @control φ φ' hphase hc =>
          rw [posted_of_idle ((congrArg Phase.pending hphase).trans hc.pending_eq_nil.1)]
          exact (queued_setPhase s m' φ' m).ledger [] rfl hnothing
      | poll hphase hreports =>
          rw [posted_of_idle (congrArg Phase.pending hphase)]
          refine (queued_of_same ?_).ledger [] rfl hnothing
          exact queue_update (muxes_polled ..) rfl m
      | @effect e pending tasks hphase =>
          refine (queued_perform hphase m a).ledger _ (history_perform ..) fun m'' p found h ↦ ?_
          rcases mem_performed h with ⟨_, -, heq⟩ | ⟨_, _, -, heq⟩ <;> cases heq
      | @wake m'' pending tasks hphase =>
          have hposted : s.posted m (.mux m' a) = [] := by
            simp only [posted, hphase]
          rw [hposted]
          refine (queued_of_same ?_).ledger [] rfl hnothing
          exact (queue_update muxes_wake rfl m).trans
            (queue_update (muxes_setPhase (.busy pending tasks)) rfl m)
      | @remote id e p tasks hphase hevent =>
          rw [posted_of_idle (congrArg Phase.pending hphase)]
          refine (queued_of_same ?_).ledger _ rfl fun m'' p' found h ↦ ?_
          · exact queue_update (muxes_processRemote transports s m' id p tasks)
              (Mux.queue_proceed ..) m
          · obtain ⟨t, ps', -, -, -, -, heq⟩ := mem_departures.1 h
            cases heq
      | post hphase hqueue hcount =>
          rw [posted_of_idle (congrArg Phase.pending hphase), List.append_nil,
            ledger_post hqueue m]
          exact ⟨fun _ ↦ rfl, fun _ ↦ List.prefix_rfl⟩
      | @accept t l id tasks hphase =>
          rw [posted_of_idle (congrArg Phase.pending hphase)]
          refine (queued_of_same ?_).ledger _ rfl fun m'' p' found h ↦ ?_
          · exact queue_update (muxes_acceptFrom s m' l id tasks a.accept) rfl m
          · rcases List.mem_append.1 h with h | h
            · obtain ⟨_, -, heq⟩ := List.mem_map.1 h
              cases heq
            · obtain ⟨_, -, heq⟩ := List.mem_map.1 h
              cases heq

/-- **Commands are taken in the order of their posts**, each of them once: what has been taken
from the queue of a controller, and what waits there, is what the users and the threads of the
node have posted to it, in every run, until its thread ends.  What a thread that has ended
has taken is a beginning of it. -/
theorem commands_in_order (transports : List Transport) {bs : List (Step N)} {s : Node N}
    (h : Transition.run (step transports) (new N) bs = some s) (m : Ctl N) :
    s.history.taken m ++ (s.muxes m).queue <+:
        Transition.collect (step transports) (posted m) (new N) bs ∧
      ((s.muxes m).phase.disconnected = false → s.history.taken m ++ (s.muxes m).queue =
        Transition.collect (step transports) (posted m) (new N) bs) := by
  refine Transition.run_collect
    (P := fun posts s ↦ ledger m s <+: posts ∧
      ((s.muxes m).phase.disconnected = false → ledger m s = posts))
    ?_ [] ⟨List.prefix_rfl, fun _ ↦ rfl⟩ h
  rintro posts s b s' ⟨hbegins, hall⟩ hs
  obtain ⟨hconnected, hdisconnected⟩ := ledger_step hs m
  cases hphase : (s'.muxes m).phase.disconnected with
  | false =>
      have hbefore : (s.muxes m).phase.disconnected = false := by
        by_contra hne
        rw [disconnected_step hs (Bool.eq_true_of_not_eq_false hne)] at hphase
        cases hphase
      rw [hconnected hphase, hall hbefore]
      exact ⟨List.prefix_rfl, fun _ ↦ rfl⟩
  | true =>
      refine ⟨((hdisconnected hphase).trans hbegins).trans (List.prefix_append _ _), fun h ↦ ?_⟩
      cases h

/-- The user posts a connection to the master, which posts its registration to the worker; then
the master is stopped, and what the user posts after that is lost. -/
def postsLate : List (Step 1) :=
  .generate .remote .tcp :: .enqueue .master (firstConnect (.socket (.localhost 80))) ::
    (masterConnects ++ [.mux .master (.quiet []), .mux .master (.quiet []),
      .mux .master (.quiet []), .stop, .mux .master (.quiet []), .enqueue .master (.greet "late")])

/-- The worker still has all that was posted to it, and the master has taken the first of two. -/
theorem commands_in_order_late : ∃ s : Node 1,
    Transition.run (step [.tcp]) (new 1) postsLate = some s ∧
      (s.muxes .master).phase.disconnected = true ∧
        s.history.taken .master = [⟨firstConnect (.socket (.localhost 80)), false⟩] ∧
          (Transition.collect (step [.tcp]) (posted .master) (new 1) postsLate).length = 2 ∧
            (s.muxes (.worker 0)).queue.length = 1 ∧
              (∀ m, s.history.taken m ++ (s.muxes m).queue <+:
                Transition.collect (step [.tcp]) (posted m) (new 1) postsLate) ∧
                s.history.taken (.worker 0) ++ (s.muxes (.worker 0)).queue =
                  Transition.collect (step [.tcp]) (posted (.worker 0)) (new 1) postsLate := by
  obtain ⟨s, hrun, hended, htaken, hposted, hqueue, hconnected⟩ : ∃ s : Node 1,
      Transition.run (step [.tcp]) (new 1) postsLate = some s ∧
        (s.muxes .master).phase.disconnected = true ∧
          s.history.taken .master = [⟨firstConnect (.socket (.localhost 80)), false⟩] ∧
            (Transition.collect (step [.tcp]) (posted .master) (new 1) postsLate).length = 2 ∧
              (s.muxes (.worker 0)).queue.length = 1 ∧
                (s.muxes (.worker 0)).phase.disconnected = false :=
    ⟨_, rfl, rfl, rfl, rfl, rfl, rfl⟩
  exact ⟨s, hrun, hended, htaken, hposted, hqueue, fun m ↦ (commands_in_order [.tcp] hrun m).1,
    (commands_in_order [.tcp] hrun (.worker 0)).2 hconnected⟩

/-! ## Streams -/

omit [NeZero N] in
/-- A command that registers a stream and returns has registered it. -/
theorem getProcessor_of_arrival {ps ps' : Processors} {c : WakerCommand} {env : CommandEnv}
    {b : Arrival} (harrival : c.arrival = some b)
    (hres : (processCommand transports ps c env).result = .ok ps') :
    ∃ t, getProcessor transports b.id = .ok t := by
  cases (processCommand_spec transports ps c env).returns ps' hres with
  | registers harrival' hget hsource =>
      cases harrival.symm.trans harrival'
      exact ⟨_, hget⟩
  | closes hc hget =>
      subst hc
      cases harrival
  | listens hc hremote =>
      subst hc
      cases harrival
  | keeps hnone => cases hnone.symm.trans harrival

omit [NeZero N] in
/-- The stream that a command brings is registered, if the command returns. -/
theorem le_registered_postEntries {ps : Processors} {p : Post} {env : CommandEnv}
    {ps' : Processors} (hres : (processCommand transports ps p.command env).result = .ok ps')
    (b : Arrival) : p.command.arrival.toList.count b ≤
      (postEntries transports m ps p
        (processCommand transports ps p.command env)).registered.count b := by
  cases harrival : p.command.arrival with
  | none => exact Nat.zero_le _
  | some b' =>
      obtain ⟨t, hget⟩ := getProcessor_of_arrival harrival hres
      have hmem : .registered m t b' ∈ postEntries transports m ps p
          (processCommand transports ps p.command env) :=
        mem_postEntries.2
          (.inr (.inl ⟨b', harrival, mem_registrations.2 ⟨t, ps', hget, hres, rfl⟩⟩))
      rw [Option.toList_some, List.count_singleton]
      split
      · rename_i heq
        obtain rfl := eq_of_beq heq
        exact List.one_le_count_iff.2 (History.mem_registered.2 ⟨m, t, hmem⟩)
      · exact Nat.zero_le _

/-- A step that brings the streams `new` on their way loses none but those of a thread that is
lost. -/
structure Ships (s s' : Node N) (new : List Arrival) : Prop where
  created : s'.history.created = new ++ s.history.created
  shipped : ∀ b : Arrival, (s'.muxes (workerOf b.id)).phase.lost = true ∨
    s.shipments b + new.count b ≤ s'.shipments b

omit [NeZero N] in
/-- A queue gains streams, and what a thread is about to post stays what it is. -/
theorem shipments_of_gain {x : Mux N} {b : Arrival} {n : Nat}
    (hmuxes : s'.muxes = Function.update s.muxes m x)
    (hpending : x.phase.pending.filterMap Pending.arrival =
      (s.muxes m).phase.pending.filterMap Pending.arrival)
    (hqueue : (x.queue.filterMap fun p ↦ p.command.arrival).count b =
      ((s.muxes m).queue.filterMap fun p ↦ p.command.arrival).count b + n)
    (hregistered : s'.history.registered = s.history.registered) :
    s'.shipments b = s.shipments b + n := by
  have hcensus := census_of_update (fun x ↦ x.cargo.count b) hmuxes
  rw [count_cargo x, count_cargo (s.muxes m), hpending, hqueue] at hcensus
  rw [shipments, shipments, hregistered]
  omega

omit [NeZero N] in
theorem shipments_of_same {x : Mux N} (hmuxes : s'.muxes = Function.update s.muxes m x)
    (hqueue : x.queue = (s.muxes m).queue)
    (hpending : x.phase.pending.filterMap Pending.arrival =
      (s.muxes m).phase.pending.filterMap Pending.arrival)
    (hregistered : s'.history.registered = s.history.registered) (b : Arrival) :
    s'.shipments b = s.shipments b :=
  shipments_of_gain (n := 0) hmuxes hpending (by rw [hqueue, Nat.add_zero]) hregistered

/-- The queue of a thread holds no streams of others. -/
theorem count_queue_eq_zero {x : Mux N} {b : Arrival} (hqueue : ∀ p ∈ x.queue, Routed m p.command)
    (hb : m ≠ workerOf b.id) : (x.queue.filterMap fun p ↦ p.command.arrival).count b = 0 := by
  refine List.count_eq_zero.2 fun hmem ↦ ?_
  obtain ⟨p, hp, harrival⟩ := List.mem_filterMap.1 hmem
  exact hb ((hqueue p hp).arrival b harrival).1

/-- A thread that ends loses what was in its queue, but nothing that belongs to others. -/
theorem shipments_setPhase {φ : Phase N} (hroutes : s.Routes)
    (hpending : φ.pending.filterMap Pending.arrival =
      (s.muxes m).phase.pending.filterMap Pending.arrival) (b : Arrival) :
    ((s.setPhase m φ).muxes (workerOf b.id)).phase.lost = true ∨
      s.shipments b ≤ (s.setPhase m φ).shipments b := by
  by_cases hb : m = workerOf b.id ∧ φ.disconnected = true
  · left
    rw [← hb.1, muxes_setPhase, Function.update_self]
    exact Phase.lost_of_disconnected hb.2
  · right
    refine (shipments_of_gain (n := 0) (muxes_setPhase φ) hpending ?_ rfl).ge
    change ((φ.keeps (s.muxes m).queue).filterMap fun p ↦ p.command.arrival).count b = _
    cases hφ : φ.disconnected with
    | false => rw [Phase.keeps_of_connected hφ, Nat.add_zero]
    | true =>
        rw [count_queue_eq_zero (hroutes.queued m) fun hm ↦ hb ⟨hm, hφ⟩,
          Phase.keeps_of_disconnected hφ]
        rfl

/-- A stream that is posted comes to the queue of its worker, if that is not over. -/
theorem shipments_posted {c : WakerCommand} (hqueue : ∀ p ∈ (s.muxes m).queue, Routed m p.command)
    (hc : Routed m c) (b : Arrival) :
    (s.muxes (workerOf b.id)).phase.lost = true ∨
      s.shipments b + c.arrival.toList.count b ≤ (s.enqueue m c).shipments b := by
  by_cases hb : m = workerOf b.id ∧ (s.muxes m).phase.disconnected = true
  · left
    rw [← hb.1]
    exact Phase.lost_of_disconnected hb.2
  · right
    refine (shipments_of_gain (muxes_enqueue c) rfl ?_ rfl).ge
    change (((s.muxes m).phase.keeps ((s.muxes m).queue ++
      [⟨c, c.target.any s.history.taught⟩])).filterMap fun p ↦ p.command.arrival).count b = _
    cases hphase : (s.muxes m).phase.disconnected with
    | false =>
        rw [Phase.keeps_of_connected hphase, List.filterMap_append, List.count_append]
        rfl
    | true =>
        have hm : m ≠ workerOf b.id := fun hm ↦ hb ⟨hm, hphase⟩
        have hnone : c.arrival.toList.count b = 0 :=
          List.count_eq_zero.2 fun hmem ↦ hm (hc.arrival b (Option.mem_toList.1 hmem)).1
        rw [count_queue_eq_zero hqueue hm, hnone, Phase.keeps_of_disconnected hphase]
        rfl

/-- An effect that is performed takes its stream from the thread to the queue. -/
theorem ships_perform {e : Effect} {pending : List (Pending N)} {tasks : List Task}
    (hroutes : s.Routes) (hphase : (s.muxes m).phase = .busy (.effect e :: pending) tasks) :
    Ships s (s.perform m pending tasks e) [] := by
  refine ⟨by cases e <;> rfl, fun b ↦ ?_⟩
  have hpending : (s.muxes m).phase.pending.filterMap Pending.arrival =
      (Pending.arrival (.effect e : Pending N)).toList ++ pending.filterMap Pending.arrival := by
    rw [hphase]
    exact filterMap_cons_toList _ _ _
  rw [List.count_nil, Nat.add_zero]
  cases e with
  | post id c =>
      have hupdate := shipments_update
        (s.muxes_setPhase (m := m) (.busy (.wake (workerOf id) :: pending) tasks)) rfl rfl b
      rw [hpending, List.count_append] at hupdate
      change _ + (c.arrival.toList.count b + _) = _ +
        (pending.filterMap Pending.arrival).count b at hupdate
      have hc : Registration id c := by
        refine hroutes.posted m id c ?_
        rw [hphase]
        exact List.mem_cons_self
      have hqueue := queue_update
        (s.muxes_setPhase (m := m) (.busy (.wake (workerOf id) :: pending) tasks)) rfl (workerOf id)
      rw [Node.perform, phase_enqueue]
      refine (shipments_posted (fun p hp ↦ ?_) hc.routed b).imp_right fun h ↦ ?_
      · rw [hqueue] at hp
        exact hroutes.queued _ p hp
      · omega
  | _ =>
      right
      exact (shipments_of_same (muxes_setPhase (.busy pending tasks)) rfl hpending.symm rfl b).ge

/-- A command that is taken registers its stream and sends others on their way. -/
theorem ships_post {p : Post} {queue : List Post} {tasks : List Task} {env : CommandEnv}
    (hroutes : s.Routes) (hpending : (s.muxes m).phase.pending = [])
    (hqueue : (s.muxes m).queue = p :: queue) :
    Ships s (s.processPost transports m { s.muxes m with queue } p tasks env)
      (arrivals (processCommand transports (s.muxes m).processors p.command
        (env.withStream ⟨s.streams⟩)).effects) := by
  have hhistory : (s.processPost transports m { s.muxes m with queue } p tasks env).history =
    postEntries transports m (s.muxes m).processors p (processCommand transports
      (s.muxes m).processors p.command (env.withStream ⟨s.streams⟩)) ++ s.history := rfl
  obtain ⟨x, hmuxes, rfl, hx, hreturns⟩ : ∃ x : Mux N,
      (s.processPost transports m { s.muxes m with queue } p tasks env).muxes =
        Function.update s.muxes m x ∧ x.queue = queue ∧
          x.phase.pending = (processCommand transports (s.muxes m).processors p.command
            (env.withStream ⟨s.streams⟩)).effects.map .effect ∧
            ((processCommand transports (s.muxes m).processors p.command
              (env.withStream ⟨s.streams⟩)).result = .ok x.processors ∨ x.phase.halts = true) :=
    ⟨_, muxes_processPost .., Mux.queue_proceed .., Mux.pending_proceed .., proceed_or_halts ..⟩
  refine ⟨by rw [hhistory, History.created_append, created_postEntries], fun b ↦ ?_⟩
  have hcensus := census_of_update (fun x ↦ x.cargo.count b) hmuxes
  have hcargo := Mux.count_cargo_taken hqueue hpending hx b
  rw [shipments, shipments, hhistory, History.registered_append, List.count_append]
  rcases hreturns with hres | hhalts
  · have hregistered := le_registered_postEntries (m := m) hres b
    right
    omega
  · by_cases hb : p.command.arrival = some b
    · -- the stream is lost with its worker
      have hmem : p ∈ (s.muxes m).queue := by
        rw [hqueue]
        exact List.mem_cons_self
      obtain rfl := ((hroutes.queued m p hmem).arrival b hb).1
      rw [hmuxes, Function.update_self]
      exact .inl (Phase.lost_of_halts hhalts)
    · have hnone : p.command.arrival.toList.count b = 0 := by
        refine List.count_eq_zero.2 fun hmem ↦ hb (Option.mem_toList.1 hmem)
      right
      omega

/-- **Every step of a thread** sends streams on their way and loses none. -/
theorem MuxStep.ships (hroutes : s.Routes) (hs : MuxStep transports s m a s') :
    ∃ new, Ships s s' new := by
  cases hs with
  | @control φ φ' hphase hc =>
      refine ⟨[], rfl, shipments_setPhase hroutes ?_⟩
      rw [hphase, hc.pending_eq_nil.1]
      exact congrArg (List.filterMap _) hc.pending_eq_nil.2
  | poll hphase hreports =>
      refine ⟨[], rfl, fun b ↦ .inr (shipments_of_same (muxes_polled ..) rfl ?_ rfl b).ge⟩
      rw [hphase]
      rfl
  | effect hphase => exact ⟨[], ships_perform hroutes hphase⟩
  | @wake m' pending tasks hphase =>
      refine ⟨[], rfl, fun b ↦ .inr ?_⟩
      refine ((shipments_of_same muxes_wake rfl rfl rfl b).trans ?_).ge
      refine shipments_of_same (muxes_setPhase (.busy pending tasks)) rfl ?_ rfl b
      rw [hphase]
      rfl
  | @remote id e p tasks hphase hevent =>
      have harrivals : arrivals p.effects = [] := by
        refine List.filterMap_eq_nil_iff.2 fun c hc ↦ ?_
        obtain ⟨e', he', hpost⟩ := List.mem_filterMap.1 hc
        obtain ⟨event, rfl, -⟩ := hevent.spec.effects e' he'
        cases hpost
      refine ⟨[], ?_, fun b ↦ .inr ?_⟩
      · exact (History.created_append _ _).trans (congrArg (· ++ _) (created_departures ..))
      · refine (shipments_of_same (muxes_processRemote transports s m id p tasks)
          (Mux.queue_proceed ..) ?_ ?_ b).ge
        · rw [Mux.pending_proceed, filterMap_arrival_effects, harrivals, hphase]
          rfl
        · exact (History.registered_append _ _).trans (congrArg (· ++ _) (registered_departures ..))
  | post hphase hqueue hcount =>
      exact ⟨_, ships_post hroutes (congrArg Phase.pending hphase) hqueue⟩
  | @accept t l id tasks hphase =>
      refine ⟨_, created_acceptFrom s m l id tasks a.accept, fun b ↦ .inr ?_⟩
      have hregistered : (s.acceptFrom m t l id tasks a.accept).history.registered =
          s.history.registered := by
        refine (History.registered_append _ _).trans ?_
        rw [History.registered_eq_nil, List.nil_append]
        intro e he
        rcases List.mem_append.1 he with he | he
        · obtain ⟨_, -, rfl⟩ := List.mem_map.1 he
          rintro _ _ _ ⟨⟩
        · obtain ⟨_, -, rfl⟩ := List.mem_map.1 he
          rintro _ _ _ ⟨⟩
      have hupdate := shipments_update (s.muxes_acceptFrom m l id tasks a.accept) rfl hregistered b
      rw [pending_acceptPhase, filterMap_arrival_effects, hphase] at hupdate
      exact hupdate.ge

/-- **A call that does not return is the last thing that a thread does.** -/
theorem MuxStep.halts (hs : MuxStep transports s m a s') {m' : Ctl N}
    (h : (s.muxes m').phase.halts = true) : (s'.muxes m').phase.halts = true := by
  by_cases hm : m' = m
  · subst hm
    have hbusy : ∀ {pending : List (Pending N)} {tasks : List Task},
        (s.muxes m').phase = .busy pending tasks → (s.muxes m').phase.halts = false → False := by
      intro pending tasks hphase hruns
      rw [h] at hruns
      cases hruns
    cases hs with
    | control hphase hc =>
        rw [muxes_setPhase, Function.update_self]
        refine hc.halts.resolve_right fun hruns ↦ ?_
        rw [hphase, hruns] at h
        cases h
    | poll hphase hreports =>
        rw [hphase] at h
        cases h
    | @effect e pending tasks hphase =>
        rcases phase_perform s m' m' e pending tasks with ⟨hne, -⟩ | ⟨-, pending', hphase', -⟩
        · exact absurd rfl hne
        · rw [hphase', Phase.halts_busy pending' (.effect e :: pending), ← hphase]
          exact h
    | @wake m'' pending tasks hphase =>
        rw [phase_wake, muxes_setPhase, Function.update_self,
          Phase.halts_busy pending (.wake m'' :: pending), ← hphase]
        exact h
    | remote hphase hevent => exact (hbusy hphase (congrArg Phase.halts hphase)).elim
    | post hphase hqueue hcount => exact (hbusy hphase (congrArg Phase.halts hphase)).elim
    | accept hphase => exact (hbusy hphase (congrArg Phase.halts hphase)).elim
  · rw [(hs.others hm).1]
    exact h

/-- A stream that is accepted gets an id, unless the thread panics over it. -/
theorem MuxStep.accepted {m' : Ctl N} {listener : ResourceId} {stream : TcpStream}
    {addr : SocketAddr} (hs : MuxStep transports s m a s')
    (h : .accepted m' listener stream addr ∈ s'.history) :
    .accepted m' listener stream addr ∈ s.history ∨ (s'.muxes m').phase.halts = true ∨
      ∃ b ∈ s'.history.created, b.stream = stream := by
  cases hs with
  | control hphase hc => exact .inl h
  | poll hphase hreports => exact .inl h
  | wake hphase => exact .inl h
  | @effect e pending tasks hphase =>
      rw [history_perform] at h
      exact .inl (mem_history_of_perform h (fun _ ↦ by rintro ⟨⟩) fun _ _ ↦ by rintro ⟨⟩)
  | @remote id e p tasks hphase hevent =>
      refine .inl ((List.mem_append.1 h).resolve_left fun h ↦ ?_)
      obtain ⟨t, ps', -, -, -, -, heq⟩ := mem_departures.1 h
      cases heq
  | post hphase hqueue hcount =>
      refine .inl ((List.mem_append.1 h).resolve_left fun h ↦ ?_)
      rcases mem_postEntries.1 h with ⟨_, -, h⟩ | ⟨_, -, h⟩ | ⟨_, -, h⟩ | h
      · obtain ⟨t, ps', -, -, -, -, heq⟩ := mem_departures.1 h
        cases heq
      · obtain ⟨t, ps', -, -, heq⟩ := mem_registrations.1 h
        cases heq
      · cases h
      · cases h
  | @accept t l id tasks hphase =>
      rcases List.mem_append.1 h with h | h
      · right
        rcases List.mem_append.1 h with h | h
        · obtain ⟨_, -, heq⟩ := List.mem_map.1 h
          cases heq
        · obtain ⟨x, hmem, heq⟩ := List.mem_map.1 h
          obtain ⟨rfl, -, rfl, -⟩ := Entry.accepted.inj heq
          have haccept : acceptedOf (s.acceptEnv id a.accept).accept = some x :=
            Option.mem_toList.1 hmem
          rw [created_acceptFrom]
          change (Function.update s.muxes m _ m).phase.halts = true ∨ _
          rw [Function.update_self]
          obtain ⟨payload, hpayload⟩ := Driver.localAcceptTurn_eq t l
          have hturn := Driver.acceptTurn_spec hpayload id (s.acceptEnv id a.accept)
          change (acceptPhase (acceptTurn l id (s.acceptEnv id a.accept)) t l id tasks :
            Phase N).halts = true ∨ _
          generalize Driver.acceptTurn l id (s.acceptEnv id a.accept) = turn at hturn
          cases hturn with
          | sent haccept' hlocal hremote =>
              rw [haccept'] at haccept
              cases haccept
              exact .inr ⟨_, List.mem_cons_self, rfl⟩
          | noAddr haccept' hlocal => exact .inl rfl
          | noId haccept' hlocal hremote => exact .inl rfl
          | nothing haccept' =>
              rw [haccept'] at haccept
              cases haccept
      · exact .inl h

/-- A thread that is over stays so. -/
theorem over_step {b : Step N} (hs : s.step transports b = some s')
    (h : (s.muxes m).phase.lost = true) : (s'.muxes m).phase.lost = true := by
  rcases Bool.or_eq_true_iff.1 h with h | h
  · refine Phase.lost_of_halts ?_
    by_cases hb : ∃ m' a, b = .mux m' a
    · obtain ⟨m', a, rfl⟩ := hb
      exact (stepMux_cases hs).halts h
    · rwa [phase_step hs fun a ha ↦ hb ⟨m, a, ha⟩]
  · exact Phase.lost_of_disconnected (disconnected_step hs h)

/-- **No stream is lost**, but to a worker that is lost. -/
structure Conserved (s : Node N) : Prop where
  shipped : ∀ b ∈ s.history.created, (s.muxes (workerOf b.id)).phase.lost = true ∨
    s.history.created.count b ≤ s.shipments b
  accepted : ∀ m listener stream addr, .accepted m listener stream addr ∈ s.history →
    (s.muxes m).phase.halts = true ∨ ∃ b ∈ s.history.created, b.stream = stream

theorem conserved_new : (new N).Conserved where
  shipped _ h := absurd h List.not_mem_nil
  accepted _ _ _ _ h := absurd h List.not_mem_nil

theorem Conserved.stepMux (h : s.Conserved) (hroutes : s.Routes)
    (hs : s.step transports (.mux m a) = some s') : s'.Conserved := by
  have hmux : MuxStep transports s m a s' := stepMux_cases hs
  obtain ⟨new, hcreated, hships⟩ := hmux.ships hroutes
  constructor
  · intro b hb
    rcases hships b with hover | hships
    · exact .inl hover
    · rw [hcreated, List.count_append]
      by_cases hold : b ∈ s.history.created
      · rcases h.shipped b hold with hover | hle
        · exact .inl (over_step hs hover)
        · right
          omega
      · have hnone := List.count_eq_zero.2 hold
        right
        omega
  · intro m' listener stream addr haccepted
    rcases hmux.accepted haccepted with hold | hnew
    · rcases h.accepted m' listener stream addr hold with hhalts | ⟨b, hb, hstream⟩
      · exact .inl (hmux.halts hhalts)
      · refine .inr ⟨b, ?_, hstream⟩
        rw [hcreated]
        exact List.mem_append_right _ hb
    · exact hnew

/-- **Every step of the node keeps the streams**, if the user goes through `NodeHandler`. -/
theorem Conserved.step {b : Step N} (h : s.Conserved) (hroutes : s.Routes)
    (huses : s.UsesHandler b) (hs : s.step transports b = some s') : s'.Conserved := by
  have hquiet : s'.history.created = s.history.created →
      (∀ m l stream addr, .accepted m l stream addr ∈ s'.history →
        .accepted m l stream addr ∈ s.history) →
      (∀ m, (s'.muxes m).phase = (s.muxes m).phase) →
      (∀ b, (s.muxes (workerOf b.id)).phase.lost = true ∨ s.shipments b ≤ s'.shipments b) →
        s'.Conserved := by
    intro hcreated haccepted hphase hshipments
    constructor
    · intro b hb
      rw [hcreated] at hb ⊢
      rw [hphase]
      rcases h.shipped b hb with hover | hle
      · exact .inl hover
      · exact (hshipments b).imp_right hle.trans
    · intro m l stream addr hmem
      rw [hcreated, hphase]
      exact h.accepted m l stream addr (haccepted m l stream addr hmem)
  cases b with
  | generate resourceType t =>
      rw [Node.step] at hs
      split at hs
      · cases hs
        cases resourceType <;>
          exact hquiet rfl (fun _ _ _ _ h ↦ h) (fun _ ↦ rfl) fun _ ↦ .inr le_rfl
      · cases hs
  | enqueue m c =>
      cases hs
      refine hquiet rfl (fun _ _ _ _ h ↦ h) (phase_enqueue c) fun b ↦ ?_
      exact (shipments_posted (hroutes.queued m) huses.routed b).imp_right
        (Nat.le_add_right _ _).trans
  | wake m =>
      rw [Node.step] at hs
      split at hs
      · cases hs
        exact hquiet rfl (fun _ _ _ _ h ↦ h) phase_wake
          fun b ↦ .inr (shipments_of_same muxes_wake rfl rfl rfl b).ge
      · cases hs
  | stop =>
      cases hs
      refine hquiet rfl (fun m l stream addr h ↦ ?_) (fun _ ↦ rfl) fun _ ↦ .inr le_rfl
      rcases List.mem_cons.1 h with h | h
      · cases h
      · exact h
  | mux m a => exact h.stepMux hroutes hs

/-- **Where a stream with an id is**: on its way to its worker, in the registry of its worker, or
gone from there. -/
inductive Whereabouts (transports : List Transport) (s : Node N) (b : Arrival) : Prop
  | travels (hcargo : Transition.census (fun x ↦ x.cargo.count b) s.muxes = 1)
      (hnot : b ∉ s.history.registered) : Whereabouts transports s b
  | registered {t : Transport} {r : Register t.RemoteResource RemoteProperties}
      (hcargo : Transition.census (fun x ↦ x.cargo.count b) s.muxes = 0)
      (honce : s.history.registered.count b = 1) (ht : getProcessor transports b.id = .ok t)
      (hr : ((s.muxes (workerOf b.id)).processors t).remote b.id = some r) (h : Holds r b) :
      Whereabouts transports s b
  | deregistered {t : Transport}
      (hcargo : Transition.census (fun x ↦ x.cargo.count b) s.muxes = 0)
      (honce : s.history.registered.count b = 1) (ht : getProcessor transports b.id = .ok t)
      (hnone : ((s.muxes (workerOf b.id)).processors t).remote b.id = none)
      (h : .deregistered (workerOf b.id) t b.id ∈ s.history) : Whereabouts transports s b

/-- A stream that is in one place is on its way, or its worker has or had it. -/
theorem Owned.whereabouts {b : Arrival} (h : s.Owned transports) (htokens : s.Tokens)
    (hb : b ∈ s.history.created) (hone : s.shipments b = 1) : s.Whereabouts transports b := by
  rw [shipments] at hone
  by_cases hmem : b ∈ s.history.registered
  · have hcount := List.one_le_count_iff.2 hmem
    have hcargo : Transition.census (fun x ↦ x.cargo.count b) s.muxes = 0 := by omega
    have honce : s.history.registered.count b = 1 := by omega
    obtain ⟨m, t, hregistered⟩ := History.mem_registered.1 hmem
    obtain ⟨rfl, ht⟩ := h.registered m t b hregistered
    cases hr : ((s.muxes (workerOf b.id)).processors t).remote b.id with
    | some r =>
        obtain ⟨a, ha, hid, hholds⟩ := h.registry _ t b.id r hr
        obtain rfl := htokens.eq_of_id (htokens.created_of_registered ha) hb hid
        exact .registered hcargo honce ht hr hholds
    | none =>
        obtain ⟨later, earlier, heq⟩ := List.append_of_mem hregistered
        rcases h.present later _ t b earlier heq with hgone | hsome
        · refine .deregistered hcargo honce ht hr ?_
          rw [heq]
          exact List.mem_append_left _ hgone
        · rw [hr] at hsome
          cases hsome
  · have hcount := List.count_eq_zero.2 hmem
    exact .travels (by omega) hmem

/-- **No stream is lost**, whatever the master, the workers and the threads of the user do, as long
as the user goes through `NodeHandler`.  A stream with an id is in exactly one place: about to be
posted or in the queue of its worker, or in the registry of its worker until it is deregistered
there; unless this worker has ended or has come to a call that does not return.  And a stream
that the operating system has accepted has got an id, unless the thread that accepted it has
come to such a call. -/
theorem no_stream_is_lost (transports : List Transport) {s : Node N}
    (h : Transition.Reach (step transports) UsesHandler (new N) s) :
    (∀ b ∈ s.history.created,
      (s.muxes (workerOf b.id)).phase.lost = true ∨ s.Whereabouts transports b) ∧
    ∀ m listener stream addr, .accepted m listener stream addr ∈ s.history →
      (s.muxes m).phase.halts = true ∨ ∃ b ∈ s.history.created, b.stream = stream := by
  have hinv : s.Routes ∧ s.Tokens ∧ s.Owned transports ∧ s.Conserved := by
    refine h.invariant
      (P := fun s : Node N ↦ s.Routes ∧ s.Tokens ∧ s.Owned transports ∧ s.Conserved)
      ⟨routes_new, tokens_new, owned_new transports, conserved_new⟩ ?_
    rintro s s' b ⟨hroutes, htokens, howned, hconserved⟩ huses hs
    exact ⟨hroutes.step huses hs, htokens.step hroutes huses hs,
      howned.step hroutes htokens huses hs, hconserved.step hroutes huses hs⟩
  obtain ⟨-, htokens, howned, hconserved⟩ := hinv
  refine ⟨fun b hb ↦ (hconserved.shipped b hb).imp_right fun hle ↦ ?_, hconserved.accepted⟩
  have hshipped := htokens.shipped b
  have hone : s.history.created.count b = 1 :=
    List.count_eq_one_of_mem (List.Nodup.of_map _ htokens.streams) hb
  exact howned.whereabouts htokens hb (by omega)

/-- The stream of the first connection is in the registry of its worker. -/
theorem no_stream_is_lost_connected : ∃ s : Node 1,
    Transition.run (step [.tcp]) (connecting (.socket (.localhost 80)))
      (masterConnects ++ workerRegisters) = some s ∧
        s.history.created.length = 1 ∧ (∀ m, (s.muxes m).phase.lost = false) ∧
          (((s.muxes (.worker 0)).processors .tcp).remote ⟨⟨1⟩⟩).isSome ∧
            ∀ b ∈ s.history.created,
              (s.muxes (workerOf b.id)).phase.lost = true ∨ s.Whereabouts [.tcp] b := by
  obtain ⟨s, hrun, hlength, hmaster, hworker, hregistered⟩ : ∃ s : Node 1,
      Transition.run (step [.tcp]) (connecting (.socket (.localhost 80)))
        (masterConnects ++ workerRegisters) = some s ∧ s.history.created.length = 1 ∧
          (s.muxes .master).phase.lost = false ∧ (s.muxes (.worker 0)).phase.lost = false ∧
            (((s.muxes (.worker 0)).processors .tcp).remote ⟨⟨1⟩⟩).isSome :=
    ⟨_, rfl, rfl, rfl, rfl, rfl⟩
  refine ⟨s, hrun, hlength, fun m ↦ ?_, hregistered, (no_stream_is_lost [.tcp] ?_).1⟩
  · cases m with
    | master => exact hmaster
    | worker i =>
        obtain rfl := Subsingleton.elim i 0
        exact hworker
  · have hfree : ∀ b ∈ masterConnects ++ workerRegisters, ∀ s : Node 1, s.UsesHandler b := by
      simp [masterConnects, workerRegisters, UsesHandler]
    exact (reach_connecting trivial ⟨rfl, List.mem_cons_self, rfl⟩).trans (.of_run hfree hrun)

end Node

end MessageIo
