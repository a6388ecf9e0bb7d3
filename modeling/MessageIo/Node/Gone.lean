import MessageIo.Node.Ready

/-!
# A remote that has gone

An id is used for one stream.  So once a remote has been registered and is not any more, and no
event of it is on its way to the user, it stays like that: `Gone` is kept by every step, and the
history gains nothing about the remote.  A worker that answers `None` to the question whether a
remote is ready says just that, because by then it has told all there was to tell.
-/

namespace MessageIo

namespace Node

variable {N : Nat}

/-! ## What the history gains -/

/-- No event of a remote is among the entries. -/
def QuietAbout (id : ResourceId) (h : History N) : Prop :=
  ∀ m e, .emitted m (.network e) ∈ h → e.endpoint.resourceId ≠ id

theorem QuietAbout.append {id : ResourceId} {h h' : History N} (hh : QuietAbout id h)
    (hh' : QuietAbout id h') : QuietAbout id (h ++ h') :=
  fun m e he ↦ (List.mem_append.1 he).elim (hh m e) (hh' m e)

variable [NeZero N] {transports : List Transport} {s s' : Node N} {m : Ctl N} {a : Answers}

/-- What a step records of events and callbacks was pending. -/
structure Performs (s : Node N) (m : Ctl N) (later : History N) : Prop where
  emitted : ∀ m' e, .emitted m' e ∈ later → .effect (.emit e) ∈ (s.muxes m).phase.pending
  called : ∀ m' cb reply, .called m' cb reply ∈ later →
    .effect (.call cb reply) ∈ (s.muxes m).phase.pending

omit [NeZero N] in
/-- Entries of other kinds. -/
theorem Performs.of_others {later : History N} (hemitted : ∀ m' e, .emitted m' e ∉ later)
    (hcalled : ∀ m' cb reply, .called m' cb reply ∉ later) : s.Performs m later :=
  ⟨fun m' e h ↦ absurd h (hemitted m' e), fun m' cb reply h ↦ absurd h (hcalled m' cb reply)⟩

/-- **A step only adds to the history.** -/
theorem MuxStep.history (hs : MuxStep transports s m a s') :
    ∃ later, s'.history = later ++ s.history ∧ s.Performs m later := by
  have hnil : s.Performs m [] :=
    .of_others (fun _ _ ↦ List.not_mem_nil) fun _ _ _ ↦ List.not_mem_nil
  cases hs with
  | control hphase hc => exact ⟨[], rfl, hnil⟩
  | poll hphase hreports => exact ⟨[], rfl, hnil⟩
  | wake hphase => exact ⟨[], rfl, hnil⟩
  | @effect e pending tasks hphase =>
      refine ⟨performed m e, history_perform s m pending tasks e, ⟨?_, ?_⟩⟩
      · intro m' event hmem
        rw [hphase]
        rcases mem_performed hmem with ⟨event', rfl, heq⟩ | ⟨_, _, -, heq⟩
        · cases heq
          exact List.mem_cons_self
        · cases heq
      · intro m' cb reply hmem
        rw [hphase]
        rcases mem_performed hmem with ⟨event', -, heq⟩ | ⟨_, _, rfl, heq⟩
        · cases heq
        · cases heq
          exact List.mem_cons_self
  | @remote id e p tasks hphase hevent =>
      refine ⟨departures transports m (s.muxes m).processors p id, rfl, .of_others ?_ ?_⟩
      · intro m' event hmem
        obtain ⟨t, ps', -, -, -, -, heq⟩ := mem_departures.1 hmem
        cases heq
      · intro m' cb reply hmem
        obtain ⟨t, ps', -, -, -, -, heq⟩ := mem_departures.1 hmem
        cases heq
  | @post count p queue tasks hphase hqueue hcount =>
      have hentries : ∀ entry ∈ postEntries transports m (s.muxes m).processors p
          (processCommand transports (s.muxes m).processors p.command
            (a.command.withStream ⟨s.streams⟩)),
          (∃ t id, entry = .deregistered m t id) ∨ (∃ t a, entry = .registered m t a) ∨
            (∃ a, entry = .created m a) ∨ ∃ found, entry = .dequeued m p found := by
        intro entry hmem
        rcases mem_postEntries.1 hmem with ⟨id, -, he⟩ | ⟨a, -, he⟩ | ⟨a, -, rfl⟩ | rfl
        · obtain ⟨t, ps', -, -, -, -, rfl⟩ := mem_departures.1 he
          exact .inl ⟨t, id, rfl⟩
        · obtain ⟨t, ps', -, -, rfl⟩ := mem_registrations.1 he
          exact .inr (.inl ⟨t, a, rfl⟩)
        · exact .inr (.inr (.inl ⟨a, rfl⟩))
        · exact .inr (.inr (.inr ⟨_, rfl⟩))
      refine ⟨_, rfl, .of_others ?_ ?_⟩
      · intro m' event hmem
        rcases hentries _ hmem with ⟨_, _, h⟩ | ⟨_, _, h⟩ | ⟨_, h⟩ | ⟨_, h⟩ <;> cases h
      · intro m' cb reply hmem
        rcases hentries _ hmem with ⟨_, _, h⟩ | ⟨_, _, h⟩ | ⟨_, h⟩ | ⟨_, h⟩ <;> cases h
  | @accept t l id tasks hphase =>
      have hentries : ∀ entry ∈ (arrivals (Driver.acceptTurn l id (s.acceptEnv id a.accept)).effects
            ).map (Entry.created m) ++ (acceptedOf (s.acceptEnv id a.accept).accept).toList.map
          (fun a ↦ Entry.accepted m id a.1 a.2),
          (∃ a, entry = .created m a) ∨ ∃ stream addr, entry = .accepted m id stream addr := by
        intro entry hmem
        rcases List.mem_append.1 hmem with hmem | hmem
        · obtain ⟨a, -, rfl⟩ := List.mem_map.1 hmem
          exact .inl ⟨a, rfl⟩
        · obtain ⟨a, -, rfl⟩ := List.mem_map.1 hmem
          exact .inr ⟨a.1, a.2, rfl⟩
      refine ⟨_, rfl, .of_others ?_ ?_⟩
      · intro m' event hmem
        rcases hentries _ hmem with ⟨_, h⟩ | ⟨_, _, h⟩ <;> cases h
      · intro m' cb reply hmem
        rcases hentries _ hmem with ⟨_, h⟩ | ⟨_, _, h⟩ <;> cases h

omit [NeZero N] in
/-- The events that the call of a step tells are those of a remote that is registered. -/
theorem Calls.emits {p : Action Processors} (hp : Calls transports s m a p) {e : NetEvent}
    (he : .emit (.network e) ∈ p.effects) :
    isRegistered transports (s.muxes m).processors e.endpoint.resourceId = true := by
  cases hp with
  | noProcessor hphase hget => cases he
  | @remote id event p tasks hphase hevent =>
      obtain ⟨e', heq, hid⟩ : Driver.IsEventOf id (.emit (.network e)) :=
        hevent.spec.effects _ he
      cases heq
      rw [hid]
      refine Bool.eq_true_of_not_eq_false fun hnot ↦ ?_
      rw [hevent.effects_of_not_registered hnot] at he
      cases he
  | post hphase hqueue => cases (processCommand_spec ..).effects _ he
  | @accept t l id tasks hphase =>
      obtain ⟨payload, hpayload⟩ := Driver.localAcceptTurn_eq t l
      have hturn := Driver.acceptTurn_spec hpayload id (s.acceptEnv id a.accept)
      change .emit (.network e) ∈ (Driver.acceptTurn l id (s.acceptEnv id a.accept)).effects at he
      generalize Driver.acceptTurn l id (s.acceptEnv id a.accept) = turn at hturn he
      cases hturn with
      | sent haccept hlocal hremote => cases List.mem_singleton.1 he
      | noAddr haccept hlocal => cases he
      | noId haccept hlocal hremote => cases he
      | nothing haccept => cases he

/-! ## Gone for good -/

/-- A remote of this id has been registered. -/
def Registered (s : Node N) (id : ResourceId) : Prop :=
  ∃ m t a, .registered m t a ∈ s.history ∧ a.id = id

/-- It is registered nowhere, and nothing about it is still to be told. -/
structure Absent (s : Node N) (id : ResourceId) : Prop where
  nowhere : ∀ m t, ((s.muxes m).processors t).remote id = none
  told : ∀ m e, .effect (.emit (.network e)) ∈ (s.muxes m).phase.pending →
    e.endpoint.resourceId ≠ id

/-- It has been registered and is not any more. -/
structure Gone (s : Node N) (id : ResourceId) : Prop extends Absent s id where
  registered : s.Registered id

omit [NeZero N] in
/-- The call of a step does not register it again. -/
theorem Gone.calls {id : ResourceId} {p : Action Processors} {ps : Processors} (h : s.Gone id)
    (htokens : s.Tokens) (hp : Calls transports s m a p) (hres : p.result = .ok ps)
    (t : Transport) :
    (ps t).remote id = none := by
  refine Option.eq_none_iff_forall_ne_some.2 fun r hr ↦ ?_
  have hnone := h.nowhere m t
  cases hp with
  | noProcessor hphase hget => cases hres
  | @remote id' e p tasks hphase hevent =>
      have hevolve : Processors.Evolve transports id' (s.muxes m).processors ps :=
        hevent.spec.returns ps hres
      by_cases hid : id = id'
      · subst hid
        obtain ⟨r', hr', -⟩ := (hevolve.evolves t).same r hr
        cases hnone.symm.trans hr'
      · rw [(hevolve.evolves t).others id hid] at hr
        cases hnone.symm.trans hr
  | @post count p queue tasks hphase hqueue =>
      rcases ((processCommand_spec ..).returns ps hres).remote_cases hr with
        hr | ⟨arrival, harrival, -, hid, -⟩
      · cases hnone.symm.trans hr
      · -- the stream of the id is registered already
        obtain ⟨m', t', a', ha', hid'⟩ := h.registered
        have hmem : p ∈ (s.muxes m).queue := by
          rw [hqueue]
          exact List.mem_cons_self
        exact htokens.not_registered hmem harrival m' t' a' ha' (hid'.trans hid.symm)
  | accept hphase =>
      obtain ⟨_, -, rfl⟩ := map_eq_ok.1 hres
      cases hnone.symm.trans hr

omit [NeZero N] in
theorem Registered.mono {id : ResourceId} {later : History N} (h : s.Registered id)
    (hhistory : s'.history = later ++ s.history) : s'.Registered id := by
  obtain ⟨m, t, a, ha, hid⟩ := h
  refine ⟨m, t, a, ?_, hid⟩
  rw [hhistory]
  exact List.mem_append_right _ ha

/-- **A thread of the node** leaves it as it is, and says nothing about it. -/
theorem Gone.stepMux {id : ResourceId} (h : s.Gone id) (htokens : s.Tokens)
    (hs : MuxStep transports s m a s') :
    s'.Gone id ∧ ∃ later, s'.history = later ++ s.history ∧ QuietAbout id later := by
  obtain ⟨later, hhistory, hlater⟩ := hs.history
  refine ⟨⟨⟨fun m' t ↦ ?_, fun m' e he ↦ ?_⟩, h.registered.mono hhistory⟩, later, hhistory,
    fun m' e he ↦ h.told m e (hlater.emitted m' _ he)⟩
  · rcases hs.drives m' with hsame | ⟨rfl, p, hp, hres⟩
    · rw [hsame]
      exact h.nowhere m' t
    · exact h.calls htokens hp hres t
  · rcases hs.mem_pending he with he | ⟨rfl, p, hp, he⟩
    · exact h.told m' e he
    · rintro hid
      have hregistered := hp.emits he
      rw [hid, isRegistered] at hregistered
      cases hget : getProcessor transports id with
      | error x =>
          rw [hget] at hregistered
          cases hregistered
      | ok t =>
          simp only [hget, h.nowhere m' t] at hregistered
          cases hregistered

omit [NeZero N] in
/-- Nothing is recorded but entries of other kinds, and no thread is touched. -/
theorem Gone.of_quiet {id : ResourceId} {later : History N} (h : s.Gone id)
    (hhistory : s'.history = later ++ s.history) (hlater : QuietAbout id later)
    (hprocessors : ∀ m, (s'.muxes m).processors = (s.muxes m).processors)
    (hphase : ∀ m, (s'.muxes m).phase = (s.muxes m).phase) :
    s'.Gone id ∧ ∃ later, s'.history = later ++ s.history ∧ QuietAbout id later := by
  refine ⟨⟨⟨fun m t ↦ ?_, fun m e he ↦ ?_⟩, h.registered.mono hhistory⟩, later, hhistory, hlater⟩
  · rw [hprocessors m]
    exact h.nowhere m t
  · rw [hphase m] at he
    exact h.told m e he

/-- **Once gone, it stays gone**, and the history gains nothing about it. -/
theorem Gone.step {id : ResourceId} {b : Step N} (h : s.Gone id) (htokens : s.Tokens)
    (hs : s.step transports b = some s') :
    s'.Gone id ∧ ∃ later, s'.history = later ++ s.history ∧ QuietAbout id later := by
  have hnone : QuietAbout id ([] : History N) := fun _ _ hmem ↦ absurd hmem List.not_mem_nil
  cases b with
  | generate resourceType t =>
      rw [Node.step] at hs
      split at hs
      · cases hs
        cases resourceType <;> exact h.of_quiet rfl hnone (fun _ ↦ rfl) fun _ ↦ rfl
      · cases hs
  | enqueue m c =>
      cases hs
      exact h.of_quiet rfl hnone (fun m' ↦ (drivers_enqueue c m').1) fun m' ↦ phase_enqueue c m'
  | wake m =>
      rw [Node.step] at hs
      split at hs
      · cases hs
        exact h.of_quiet rfl hnone (fun m' ↦ (drivers_wake m').1) fun m' ↦ phase_wake m'
      · cases hs
  | stop =>
      cases hs
      have hstopped : QuietAbout id ([.stopped] : History N) := by
        intro m e hmem
        cases List.mem_singleton.1 hmem
      exact h.of_quiet rfl hstopped (fun _ ↦ rfl) fun _ ↦ rfl
  | mux m a => exact h.stepMux htokens (stepMux_cases hs)

/-- No step takes anything from the history. -/
theorem history_step {b : Step N} (hs : s.step transports b = some s') :
    ∃ later, s'.history = later ++ s.history := by
  cases b with
  | generate resourceType t =>
      rw [Node.step] at hs
      split at hs
      · cases hs
        cases resourceType <;> exact ⟨[], rfl⟩
      · cases hs
  | enqueue m c =>
      cases hs
      exact ⟨[], rfl⟩
  | wake m =>
      rw [Node.step] at hs
      split at hs
      · cases hs
        exact ⟨[], rfl⟩
      · cases hs
  | stop =>
      cases hs
      exact ⟨[.stopped], rfl⟩
  | mux m a =>
      obtain ⟨later, hhistory, -⟩ := (stepMux_cases hs).history
      exact ⟨later, hhistory⟩

/-- An id that is held and not posted is held still. -/
theorem mem_held_step {b : Step N} {id : ResourceId} (hid : id ∈ s.held)
    (hb : ∀ m c, b = .enqueue m c → postedId c ≠ some id)
    (hs : s.step transports b = some s') : id ∈ s'.held := by
  cases b with
  | generate resourceType t =>
      rw [Node.step] at hs
      split at hs
      · cases hs
        cases resourceType <;> exact List.mem_append_right _ hid
      · cases hs
  | enqueue m c =>
      cases hs
      have hne := hb m c rfl
      change id ∈ (postedId c).elim s.held s.held.erase
      cases hposted : postedId c with
      | none => exact hid
      | some id' =>
          refine (List.mem_erase_of_ne ?_).2 hid
          rintro rfl
          exact hne hposted
  | wake m =>
      rw [Node.step] at hs
      split at hs
      · cases hs
        exact hid
      · cases hs
  | stop =>
      cases hs
      exact hid
  | mux m a =>
      rw [(stepMux_cases hs).held]
      exact hid

/-! ## What `None` says -/

/-- **A worker that has nothing else to do and finds no remote**: there is none, and all about it
has been told. -/
theorem Owned.absent (howned : s.Owned transports) {id : ResourceId} {t : Transport}
    (hget : getProcessor transports id = .ok t)
    (hpending : (s.muxes (workerOf id)).phase.pending = [])
    (hnone : ((s.muxes (workerOf id)).processors t).remote id = none) : s.Absent id where
  nowhere m t' := by
    refine Option.eq_none_iff_forall_ne_some.2 fun r hr ↦ ?_
    obtain ⟨a, ha, rfl, -⟩ := howned.registry m t' id r hr
    obtain ⟨rfl, hget'⟩ := howned.registered m t' a ha
    cases hget.symm.trans hget'
    cases hnone.symm.trans hr
  told m e he := by
    rintro rfl
    obtain ⟨t', a, ha, hid, -⟩ := howned.emits m e he
    obtain ⟨rfl, -⟩ := howned.registered m t' a ha
    rw [hid, hpending] at he
    cases he

end Node

end MessageIo
