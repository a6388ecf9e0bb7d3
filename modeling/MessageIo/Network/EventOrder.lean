import MessageIo.Adapters.Tcp

/-!
# The order of the events of a remote

What the user is told about one remote is a story with a fixed plot: an opening
(`Accepted`, or `Connected` with `true`), messages, and `Disconnected`; or nothing
but `Connected` with `false`.  `Story` says which events can still come, given what
the registry knows of the remote (`Stage`), and every call of the driver keeps to
it (`follows_call`).  The plot of a whole run is then an induction over its calls.

This holds for every adapter whose `ready_to_write` is the one of the trait.
-/

namespace MessageIo

namespace Driver

variable {R L : Type}

/-! ## Events of one id -/

/-- The network event that an effect is, if it is one about `id`. -/
def eventAbout (id : ResourceId) : Effect → Option NetEvent
  | .emit (.network e) => if e.endpoint.resourceId = id then some e else none
  | _ => none

/-- The network events among some effects that are about one resource. -/
def eventsOf (id : ResourceId) (effects : List Effect) : List NetEvent :=
  effects.filterMap (eventAbout id)

@[simp] theorem eventsOf_nil (id : ResourceId) : eventsOf id [] = [] := rfl

theorem eventsOf_append (id : ResourceId) (es fs : List Effect) :
    eventsOf id (es ++ fs) = eventsOf id es ++ eventsOf id fs := List.filterMap_append

theorem eventsOf_event_self {id : ResourceId} {e : NetEvent} (h : e.endpoint.resourceId = id)
    (es : List Effect) : eventsOf id (.emit (.network e) :: es) = e :: eventsOf id es :=
  List.filterMap_cons_some (if_pos h)

theorem eventsOf_event_of_ne {id : ResourceId} {e : NetEvent} (h : e.endpoint.resourceId ≠ id)
    (es : List Effect) : eventsOf id (.emit (.network e) :: es) = eventsOf id es :=
  List.filterMap_cons_none (if_neg h)

theorem eventsOf_eq_nil {id : ResourceId} {es : List Effect}
    (h : ∀ e ∈ es, eventAbout id e = none) :
    eventsOf id es = [] := List.filterMap_eq_nil_iff.2 h

/-! ## The plot -/

/-- What a registry knows of a remote. -/
inductive Stage where
  | absent
  | pending (endpoint : Endpoint) (localId : Option ResourceId)
  | ready (endpoint : Endpoint)

/-- The event that opens a story. -/
def opening (endpoint : Endpoint) : Option ResourceId → NetEvent
  | some listenerId => .accepted endpoint listenerId
  | none => .connected endpoint true

/-- Messages, and perhaps a disconnection behind them. -/
def Told (endpoint : Endpoint) (es : List NetEvent) : Prop :=
  ∃ msgs : List Bytes, es <+: msgs.map (.message endpoint) ++ [.disconnected endpoint]

/-- What a user can be told about a remote from a stage on. -/
def Story : Stage → List NetEvent → Prop
  | .absent, es => es = []
  | .pending endpoint localId, es =>
      es = [] ∨ (localId = none ∧ es = [.connected endpoint false]) ∨
        ∃ rest, es = opening endpoint localId :: rest ∧ Told endpoint rest
  | .ready endpoint, es => Told endpoint es

theorem Told.nil (endpoint : Endpoint) : Told endpoint [] := ⟨[], List.nil_prefix⟩

theorem Told.disconnected (endpoint : Endpoint) : Told endpoint [.disconnected endpoint] :=
  ⟨[], List.prefix_refl _⟩

theorem Told.message {endpoint : Endpoint} {es : List NetEvent} (h : Told endpoint es)
    (data : Bytes) : Told endpoint (.message endpoint data :: es) := by
  obtain ⟨msgs, hmsgs⟩ := h
  exact ⟨data :: msgs, List.cons_prefix_cons.2 ⟨rfl, hmsgs⟩⟩

theorem Told.messages {endpoint : Endpoint} {es : List NetEvent} (h : Told endpoint es)
    (msgs : List Bytes) : Told endpoint (msgs.map (.message endpoint) ++ es) := by
  induction msgs with
  | nil => exact h
  | cons data msgs ih => exact ih.message data

theorem Story.nil (σ : Stage) : Story σ [] := by
  cases σ with
  | absent => rfl
  | pending endpoint localId => exact .inl rfl
  | ready endpoint => exact Told.nil endpoint

theorem Told.cases_of_mem {endpoint : Endpoint} {e : NetEvent} {es : List NetEvent}
    (h : Told endpoint es) (he : e ∈ es) :
    (∃ data, e = .message endpoint data) ∨ e = .disconnected endpoint := by
  obtain ⟨msgs, hmsgs⟩ := h
  rcases List.mem_append.1 (hmsgs.subset he) with he | he
  · obtain ⟨data, -, rfl⟩ := List.mem_map.1 he
    exact .inl ⟨data, rfl⟩
  · exact .inr (List.mem_singleton.1 he)

/-- The opening is told first, and it is the one that belongs to the remote. -/
theorem Story.of_opening {endpoint endpoint' : Endpoint} {localId localId' : Option ResourceId}
    {es : List NetEvent}
    (h : Story (.pending endpoint localId) (es ++ [opening endpoint' localId'])) :
    es = [] ∧ endpoint' = endpoint ∧ localId' = localId := by
  cases es with
  | nil =>
      rcases h with h | ⟨-, h⟩ | ⟨rest, h, -⟩
      · cases h
      · cases localId' <;> cases h
      · have hopening := (List.cons_eq_cons.1 h).1
        cases localId <;> cases localId' <;> cases hopening <;> exact ⟨rfl, rfl, rfl⟩
  | cons e es =>
      rcases h with h | ⟨-, h⟩ | ⟨rest, h, hrest⟩
      · cases h
      · exact absurd (List.cons_eq_cons.1 h).2 (List.append_ne_nil_of_right_ne_nil _ nofun)
      · obtain ⟨rfl, rfl⟩ := List.cons_eq_cons.1 h
        rcases hrest.cases_of_mem (List.mem_append_right _ List.mem_cons_self) with ⟨data, h⟩ | h
        · cases localId' <;> cases h
        · cases localId' <;> cases h

/-- The stage of an id in a driver. -/
def stage (d : Driver R L) (id : ResourceId) : Stage :=
  match d.remote id with
  | none => .absent
  | some r =>
      if r.properties.ready then .ready ⟨id, r.properties.peerAddr⟩
      else .pending ⟨id, r.properties.peerAddr⟩ r.properties.localId

/-- The effects whose events about `id` fit the stage. -/
def plot (id : ResourceId) (σ : Stage) (effects : List Effect) : Prop :=
  Story σ (eventsOf id effects)

theorem plot_nil (id : ResourceId) (σ : Stage) : plot id σ [] := Story.nil σ

theorem stage_absent {d : Driver R L} {id : ResourceId} (h : d.remote id = none) :
    d.stage id = .absent := by
  rw [stage, h]

theorem stage_ready {d : Driver R L} {id : ResourceId} {r : Register R RemoteProperties}
    (h : d.remote id = some r) (hr : r.properties.ready = true) :
    d.stage id = .ready ⟨id, r.properties.peerAddr⟩ := by
  rw [stage, h]
  exact if_pos hr

theorem stage_pending {d : Driver R L} {id : ResourceId} {r : Register R RemoteProperties}
    (h : d.remote id = some r) (hr : r.properties.ready = false) :
    d.stage id = .pending ⟨id, r.properties.peerAddr⟩ r.properties.localId := by
  rw [stage, h]
  exact if_neg (by rw [hr]; exact Bool.false_ne_true)

/-- The stage of an id depends on nothing but its register. -/
theorem stage_congr {d d' : Driver R L} {id : ResourceId} (h : d'.remote id = d.remote id) :
    d'.stage id = d.stage id := by
  rw [stage, stage, h]

/-! ## Registers after the basic operations -/

@[simp] theorem remote_new (id : ResourceId) : (new : Driver R L).remote id = none := rfl

@[simp] theorem remote_modifyRemote_self (d : Driver R L) (id : ResourceId)
    (r : Register R RemoteProperties) :
    (d.modifyRemote id r).remote id = (d.remote id).map fun _ ↦ r :=
  ResourceRegistry.get_modify_self ..

theorem remote_modifyRemote_of_ne {d : Driver R L} {id id' : ResourceId} (h : id' ≠ id)
    (r : Register R RemoteProperties) : (d.modifyRemote id r).remote id' = d.remote id' :=
  ResourceRegistry.get_modify_of_ne h r

@[simp] theorem remote_deregisterRemote_self (d : Driver R L) (id : ResourceId) :
    (d.deregisterRemote id).remote id = none :=
  ResourceRegistry.get_deregister_self ..

theorem remote_deregisterRemote_of_ne {d : Driver R L} {id id' : ResourceId} (h : id' ≠ id) :
    (d.deregisterRemote id).remote id' = d.remote id' :=
  ResourceRegistry.get_deregister_of_ne h

@[simp] theorem remote_deregisterLocal (d : Driver R L) (id id' : ResourceId) :
    (d.deregisterLocal id).remote id' = d.remote id' := rfl

/-! ## One function after the other -/

theorem follows_event_self {id : ResourceId} {e : NetEvent} {σ τ : Stage}
    (he : e.endpoint.resourceId = id) (h : ∀ es, Story τ es → Story σ (e :: es)) :
    (event e).Follows (plot id σ) fun _ ↦ plot id τ :=
  Proc.Follows.of_effect fun rest hrest ↦ by
    rw [plot, eventsOf_event_self he]
    exact h _ hrest

theorem follows_event_of_ne {id : ResourceId} {e : NetEvent} (he : e.endpoint.resourceId ≠ id)
    (σ : Stage) : (event e).Follows (plot id σ) fun _ ↦ plot id σ :=
  Proc.Follows.of_effect fun rest hrest ↦ by
    rw [plot, eventsOf_event_of_ne he]
    exact hrest

/-- An effect that is no network event fits everywhere. -/
theorem follows_effect {id : ResourceId} {e : Effect} (he : eventAbout id e = none) (σ : Stage) :
    (Proc.effect e : Action Unit).Follows (plot id σ) fun _ ↦ plot id σ :=
  Proc.Follows.of_effect fun rest hrest ↦ by
    rw [plot, eventsOf, List.filterMap_cons_none he]
    exact hrest

/-- A result without effects fits everywhere. -/
theorem follows_ofExcept {α : Type} (id : ResourceId) (σ : Stage) (r : Except Halt α) :
    (Proc.ofExcept r : Action α).Follows (plot id σ) fun _ ↦ plot id σ :=
  Proc.Follows.of_ofExcept (plot_nil id σ) fun _ _ _ h ↦ h

theorem follows_pure {d d' : Driver R L} {id : ResourceId} (h : d'.remote id = d.remote id) :
    (pure d' : Action (Driver R L)).Follows (plot id (d.stage id)) fun d' ↦ plot id (d'.stage id) :=
  Proc.Follows.of_pure fun rest hrest ↦ by
    rw [stage_congr h] at hrest
    exact hrest

/-! ## Poll events of a remote -/

section Remote

variable [Remote R]

theorem follows_tellReady (endpoint : Endpoint) (localId : Option ResourceId) :
    (tellReady endpoint localId).Follows (plot endpoint.resourceId (.pending endpoint localId))
      fun _ ↦ plot endpoint.resourceId (.ready endpoint) := by
  cases localId with
  | none => exact follows_event_self rfl fun es hes ↦ .inr (.inr ⟨es, rfl, hes⟩)
  | some listenerId => exact follows_event_self rfl fun es hes ↦ .inr (.inr ⟨es, rfl, hes⟩)

theorem follows_tellFailed (endpoint : Endpoint) (localId : Option ResourceId) :
    (tellFailed endpoint localId).Follows (plot endpoint.resourceId (.pending endpoint localId))
      fun _ ↦ plot endpoint.resourceId .absent := by
  cases localId with
  | none =>
      refine follows_event_self rfl fun es hes ↦ ?_
      cases hes
      exact .inr (.inl ⟨rfl, rfl⟩)
  | some listenerId => exact Proc.Follows.of_pure fun rest hrest ↦ .inl hrest

theorem follows_tellReady_of_ne {id : ResourceId} {endpoint : Endpoint}
    (h : endpoint.resourceId ≠ id) (localId : Option ResourceId) (σ : Stage) :
    (tellReady endpoint localId).Follows (plot id σ) fun _ ↦ plot id σ := by
  cases localId with
  | none => exact follows_event_of_ne (e := .connected endpoint true) h σ
  | some listenerId => exact follows_event_of_ne (e := .accepted endpoint listenerId) h σ

theorem follows_tellFailed_of_ne {id : ResourceId} {endpoint : Endpoint}
    (h : endpoint.resourceId ≠ id) (localId : Option ResourceId) (σ : Stage) :
    (tellFailed endpoint localId).Follows (plot id σ) fun _ ↦ plot id σ := by
  cases localId with
  | none => exact follows_event_of_ne (e := .connected endpoint false) h σ
  | some listenerId => exact Proc.Follows.of_pure fun _ h ↦ h

/-- Resolving a pending remote opens its story, or ends it. -/
theorem follows_resolvePendingRemote {d : Driver R L} {id : ResourceId}
    {r : Register R RemoteProperties} (h : d.remote id = some r)
    (hr : r.properties.ready = false) (env : PendingEnv) :
    (d.resolvePendingRemote r ⟨id, r.properties.peerAddr⟩ env).Follows
      (plot id (.pending ⟨id, r.properties.peerAddr⟩ r.properties.localId))
      fun x ↦ plot id (x.1.stage id) := by
  refine Proc.Follows.bind (follows_ofExcept id _ _) ?_
  rintro ⟨status, resource⟩ -
  cases status with
  | ready =>
      refine Proc.Follows.bind (follows_tellReady _ _) fun _ _ ↦ Proc.Follows.of_pure ?_
      intro rest hrest
      have hreg : (d.modifyRemote id ⟨resource, r.properties.markAsReady⟩).remote id =
          some ⟨resource, r.properties.markAsReady⟩ := by
        rw [remote_modifyRemote_self, h, Option.map_some]
      rw [stage_ready hreg rfl] at hrest
      exact hrest
  | incomplete =>
      refine Proc.Follows.of_pure fun rest hrest ↦ ?_
      have hreg : (d.modifyRemote id { r with resource }).remote id = some { r with resource } := by
        rw [remote_modifyRemote_self, h, Option.map_some]
      rw [stage_pending hreg hr] at hrest
      exact hrest
  | disconnected =>
      refine Proc.Follows.bind (follows_tellFailed _ _) fun _ _ ↦ Proc.Follows.of_pure ?_
      intro rest hrest
      rw [stage_absent (remote_deregisterRemote_self d id)] at hrest
      exact hrest

theorem follows_resolvePendingRemote_of_ne {d : Driver R L} {id : ResourceId}
    {endpoint : Endpoint} (h : endpoint.resourceId ≠ id) (r : Register R RemoteProperties)
    (env : PendingEnv) :
    (d.resolvePendingRemote r endpoint env).Follows (plot id (d.stage id))
      fun x ↦ plot id (x.1.stage id) := by
  refine Proc.Follows.bind (follows_ofExcept id _ _) ?_
  rintro ⟨status, resource⟩ -
  cases status with
  | ready =>
      refine Proc.Follows.bind (follows_tellReady_of_ne h _ _) fun _ _ ↦ Proc.Follows.of_pure ?_
      intro rest hrest
      rwa [stage_congr (remote_modifyRemote_of_ne h.symm _)] at hrest
  | incomplete =>
      refine Proc.Follows.of_pure fun rest hrest ↦ ?_
      rwa [stage_congr (remote_modifyRemote_of_ne h.symm _)] at hrest
  | disconnected =>
      refine Proc.Follows.bind (follows_tellFailed_of_ne h _ _) fun _ _ ↦ Proc.Follows.of_pure ?_
      intro rest hrest
      rwa [stage_congr (remote_deregisterRemote_of_ne h.symm)] at hrest

/-- If the register is ready after `resolve_pending_remote`, it is the one in the registry. -/
theorem resolvePendingRemote_ready {d d' : Driver R L} {r r' : Register R RemoteProperties}
    {endpoint : Endpoint} {env : PendingEnv} (h : d.remote endpoint.resourceId = some r)
    (hr : r.properties.ready = false)
    (hres : (d.resolvePendingRemote r endpoint env).result = .ok (d', r'))
    (hr' : r'.properties.ready = true) :
    d'.remote endpoint.resourceId = some r' ∧ r'.properties.peerAddr = r.properties.peerAddr := by
  obtain ⟨⟨status, resource⟩, -, hres⟩ := Proc.result_bind_eq_ok hres
  cases status with
  | ready =>
      obtain ⟨_, -, hres⟩ := Proc.result_bind_eq_ok hres
      cases hres
      exact ⟨by rw [remote_modifyRemote_self, h, Option.map_some], rfl⟩
  | incomplete =>
      cases hres
      rw [hr] at hr'
      cases hr'
  | disconnected =>
      obtain ⟨_, -, hres⟩ := Proc.result_bind_eq_ok hres
      cases hres
      rw [hr] at hr'
      cases hr'

/-- The remote that `whenReady` yields is registered and ready. -/
theorem whenReady_some {d d' : Driver R L} {id : ResourceId} {env : PendingEnv}
    {endpoint : Endpoint} {r : Register R RemoteProperties}
    (h : (d.whenReady id env).result = .ok (d', some (endpoint, r))) :
    d'.remote id = some r ∧ r.properties.ready = true ∧
      endpoint = ⟨id, r.properties.peerAddr⟩ := by
  rw [whenReady] at h
  cases hreg : d.remote id with
  | none =>
      rw [hreg] at h
      cases h
  | some r₀ =>
      rw [hreg] at h
      obtain ⟨⟨d₁, r₁⟩, hres, h⟩ := Proc.result_bind_eq_ok h
      cases hr₁ : r₁.properties.ready with
      | false =>
          simp only [hr₁] at h
          cases h
      | true =>
          simp only [hr₁] at h
          cases h
          rw [resolveUnlessReady] at hres
          split at hres
          · cases hres
            exact ⟨hreg, hr₁, rfl⟩
          · rename_i hr₀
            obtain ⟨hreg', hpeer⟩ := resolvePendingRemote_ready hreg (Bool.eq_false_iff.2 hr₀)
              hres hr₁
            exact ⟨hreg', hr₁, by rw [hpeer]⟩

/-- The front of `process_read` and `process_write` keeps to the story of every id. -/
theorem follows_whenReady (d : Driver R L) (id id' : ResourceId) (env : PendingEnv) :
    (d.whenReady id' env).Follows (plot id (d.stage id)) fun x ↦ plot id (x.1.stage id) := by
  rw [whenReady]
  cases hreg : d.remote id' with
  | none => exact Proc.Follows.of_pure fun _ h ↦ h
  | some r =>
      refine Proc.Follows.bind (L := fun x ↦ plot id (x.1.stage id)) ?_
        fun _ _ ↦ Proc.Follows.of_pure fun _ h ↦ h
      rw [resolveUnlessReady]
      split
      · exact Proc.Follows.of_pure fun _ h ↦ h
      · rename_i hr
        rw [Bool.not_eq_true] at hr
        by_cases hid : id' = id
        · subst hid
          rw [stage_pending hreg hr]
          exact follows_resolvePendingRemote hreg hr env
        · exact follows_resolvePendingRemote_of_ne hid r env

theorem eventsOf_messages (endpoint : Endpoint) (msgs : List Bytes) :
    eventsOf endpoint.resourceId
      (msgs.map fun data ↦ .emit (.network (.message endpoint data))) =
      msgs.map (.message endpoint) := by
  induction msgs with
  | nil => rfl
  | cons data msgs ih =>
      have hmsg : (NetEvent.message endpoint data).endpoint.resourceId = endpoint.resourceId := rfl
      rw [List.map_cons, eventsOf_event_self hmsg, ih, List.map_cons]

theorem eventsOf_messages_of_ne {endpoint : Endpoint} {id : ResourceId}
    (h : endpoint.resourceId ≠ id) (msgs : List Bytes) :
    eventsOf id (msgs.map fun data ↦ .emit (.network (.message endpoint data))) = [] := by
  refine eventsOf_eq_nil fun e he ↦ ?_
  obtain ⟨data, -, rfl⟩ := List.mem_map.1 he
  exact if_neg h

/-- The data that `receive` processes becomes messages of the story. -/
theorem follows_messages {α : Type} (endpoint : Endpoint) (m : Proc Bytes Halt α) :
    (m.mapEffects fun data ↦ Effect.emit (.network (.message endpoint data))).Follows
      (plot endpoint.resourceId (.ready endpoint))
      fun _ ↦ plot endpoint.resourceId (.ready endpoint) := by
  constructor
  · intro a _ rest hrest
    rw [plot, eventsOf_append, Proc.effects_mapEffects, eventsOf_messages]
    exact Told.messages hrest m.effects
  · intro x _
    have := Told.messages (Told.nil endpoint) m.effects
    rw [List.append_nil] at this
    rw [plot, Proc.effects_mapEffects, eventsOf_messages]
    exact this

theorem follows_messages_of_ne {α : Type} {endpoint : Endpoint} {id : ResourceId}
    (h : endpoint.resourceId ≠ id) (m : Proc Bytes Halt α) (σ : Stage) :
    (m.mapEffects fun data ↦ Effect.emit (.network (.message endpoint data))).Follows
      (plot id σ) fun _ ↦ plot id σ := by
  constructor
  · intro a _ rest hrest
    rw [plot, eventsOf_append, Proc.effects_mapEffects, eventsOf_messages_of_ne h]
    exact hrest
  · intro x _
    rw [plot, Proc.effects_mapEffects, eventsOf_messages_of_ne h]
    exact Story.nil σ

omit [Remote R] in
/-- The end of the story, if `receive` says so. -/
theorem follows_afterReceive {d : Driver R L} {id : ResourceId}
    {r : Register R RemoteProperties} (h : d.remote id = some r)
    (hr : r.properties.ready = true) (id' : ResourceId) (status : ReadStatus) :
    (d.afterReceive ⟨id, r.properties.peerAddr⟩ status).Follows (plot id' (d.stage id'))
      fun d' ↦ plot id' (d'.stage id') := by
  cases status with
  | waitNextEvent => exact Proc.Follows.of_pure fun _ h ↦ h
  | disconnected =>
      have hsome : (d.remoteRegistry.deregister id).2 = true := by
        rw [ResourceRegistry.snd_deregister]
        exact Option.isSome_of_eq_some h
      rw [afterReceive, show d.remoteRegistry.deregister id = (_, true) from Prod.ext rfl hsome]
      by_cases hid : id = id'
      · subst hid
        rw [stage_ready h hr]
        refine Proc.Follows.bind (L := fun _ ↦ plot id .absent)
          (follows_event_self rfl fun es hes ↦ ?_) fun _ _ ↦ Proc.Follows.of_pure ?_
        · cases hes
          exact Told.disconnected _
        · intro rest hrest
          rwa [stage_absent (remote_deregisterRemote_self d id)] at hrest
      · refine Proc.Follows.bind (follows_event_of_ne (e := .disconnected ⟨id, _⟩) hid _)
          fun _ _ ↦ Proc.Follows.of_pure ?_
        intro rest hrest
        rwa [stage_congr (remote_deregisterRemote_of_ne (Ne.symm hid))] at hrest

/-- Reading adds messages to the story, and ends it when the remote is gone. -/
theorem follows_readFromRemote {d : Driver R L} {id : ResourceId}
    {r : Register R RemoteProperties} (h : d.remote id = some r)
    (hr : r.properties.ready = true) (id' : ResourceId) (envs : List ReadEnv) :
    (d.readFromRemote r ⟨id, r.properties.peerAddr⟩ envs).Follows (plot id' (d.stage id'))
      fun d' ↦ plot id' (d'.stage id') := by
  refine Proc.Follows.bind (L := fun _ ↦ plot id' (d.stage id')) ?_ ?_
  · by_cases hid : id = id'
    · subst hid
      rw [stage_ready h hr]
      exact follows_messages _ _
    · exact follows_messages_of_ne hid _ _
  · rintro ⟨status, resource⟩ -
    have hreg : (d.modifyRemote id { r with resource }).remote id = some { r with resource } := by
      rw [remote_modifyRemote_self, h, Option.map_some]
    have hstage : d.stage id' = (d.modifyRemote id { r with resource }).stage id' := by
      by_cases hid : id' = id
      · subst hid
        rw [stage_ready h hr, stage_ready hreg hr]
      · exact (stage_congr (remote_modifyRemote_of_ne hid _)).symm
    rw [hstage]
    exact follows_afterReceive hreg hr id' status

end Remote

/-! ## The calls of a driver -/

section Local

variable [Local L]

theorem follows_acceptTurn {id id' : ResourceId} (h : id' ≠ id) (l : L) (env : AcceptEnv)
    (σ : Stage) : (acceptTurn l id' env).Follows (plot id σ) fun _ ↦ plot id σ := by
  rw [acceptTurn]
  cases Local.acceptTurn l env.accept with
  | again => exact Proc.Follows.of_pure fun _ h ↦ h
  | done => exact Proc.Follows.of_pure fun _ h ↦ h
  | accepted a =>
      cases a with
      | remote remoteAddr stream payload =>
          refine Proc.Follows.bind (follows_ofExcept id σ _) fun localAddr _ ↦ ?_
          refine Proc.Follows.bind (follows_ofExcept id σ _) fun remoteId _ ↦ ?_
          exact Proc.Follows.bind (follows_effect rfl σ) fun _ _ ↦ Proc.Follows.of_pure fun _ h ↦ h
      | data addr data =>
          exact Proc.Follows.bind (follows_event_of_ne (e := .message ⟨id', addr⟩ data) h σ)
            fun _ _ ↦ Proc.Follows.of_pure fun _ h ↦ h

/-- Accepting streams tells nothing about a remote: the events it may lead to are about
the listener. -/
theorem follows_readFromLocal {id id' : ResourceId} (h : id' ≠ id) (l : L)
    (envs : List AcceptEnv) (σ : Stage) :
    (readFromLocal l id' envs).Follows (plot id σ) fun _ ↦ plot id σ := by
  induction envs with
  | nil => exact Proc.Follows.of_halt (plot_nil id σ)
  | cons env envs ih =>
      refine Proc.Follows.bind (follows_acceptTurn h l env σ) fun again _ ↦ ?_
      cases again with
      | true => exact ih
      | false => exact Proc.Follows.of_pure fun _ h ↦ h

end Local

/-! ## The calls that change registers -/

theorem follows_processClose (d : Driver R L) (id id' : ResourceId) :
    (pure (d.processClose id').1 : Action (Driver R L)).Follows (plot id (d.stage id))
      fun d' ↦ plot id (d'.stage id) := by
  rw [processClose]
  cases id'.resourceType with
  | «local» => exact follows_pure rfl
  | remote =>
      by_cases hid : id = id'
      · subst hid
        refine Proc.Follows.of_pure fun rest hrest ↦ ?_
        rw [stage_absent (remote_deregisterRemote_self d id)] at hrest
        rw [plot, show eventsOf id rest = [] from hrest]
        exact Story.nil _
      · exact follows_pure (remote_deregisterRemote_of_ne hid)

theorem remote_registerRemote {d d' : Driver R L} {id : ResourceId} {resource : R}
    {p : RemoteProperties} {pollAdd : IoResult Unit}
    (h : d.registerRemote id resource p pollAdd = .ok d') :
    d'.remote id = some ⟨resource, p⟩ ∧ ∀ id', id' ≠ id → d'.remote id' = d.remote id' := by
  cases pollAdd with
  | error err => cases h
  | ok _ =>
      cases h
      exact ⟨ResourceRegistry.get_register_self .., fun id' hid' ↦
        ResourceRegistry.get_register_of_ne hid' ..⟩

theorem remote_registerLocal {d d' : Driver R L} {id : ResourceId} {l : L}
    {pollAdd : IoResult Unit} (h : d.registerLocal id l pollAdd = .ok d') (id' : ResourceId) :
    d'.remote id' = d.remote id' := by
  cases pollAdd with
  | error err => cases h
  | ok _ =>
      cases h
      rfl

section Adapter

variable [Adapter R L]

theorem follows_processRead (d : Driver R L) {id : ResourceId} (hid : id.resourceType = .remote)
    (id' : ResourceId) (env : PendingEnv) (reads : List ReadEnv) (accepts : List AcceptEnv) :
    (d.processRead id' env reads accepts).Follows (plot id (d.stage id))
      fun d' ↦ plot id (d'.stage id) := by
  rw [processRead]
  cases htype : id'.resourceType with
  | remote =>
      refine Proc.Follows.bind (follows_whenReady d id id' env) ?_
      rintro ⟨d₁, ready⟩ hready
      cases ready with
      | none => exact Proc.Follows.of_pure fun _ h ↦ h
      | some x =>
          obtain ⟨endpoint, r⟩ := x
          obtain ⟨hreg, hr, rfl⟩ := whenReady_some hready
          exact follows_readFromRemote hreg hr id reads
  | «local» =>
      have hne : id' ≠ id := by
        rintro rfl
        rw [hid] at htype
        cases htype
      cases d.listener id' with
      | none => exact Proc.Follows.of_pure fun _ h ↦ h
      | some l =>
          exact Proc.Follows.bind (follows_readFromLocal hne l.resource accepts _)
            fun _ _ ↦ Proc.Follows.of_pure fun _ h ↦ h

theorem follows_processWrite (d : Driver R L) (hready : ∀ r : R, Remote.readyToWrite r = true)
    (id id' : ResourceId) (env : PendingEnv) :
    (d.processWrite id' env).Follows (plot id (d.stage id)) fun d' ↦ plot id (d'.stage id) := by
  rw [processWrite]
  cases id'.resourceType with
  | «local» => exact Proc.Follows.of_pure fun _ h ↦ h
  | remote =>
      refine Proc.Follows.bind (follows_whenReady d id id' env) ?_
      rintro ⟨d₁, ready⟩ -
      cases ready with
      | none => exact Proc.Follows.of_pure fun _ h ↦ h
      | some x =>
          obtain ⟨endpoint, r⟩ := x
          have hwrite : writeToRemote r endpoint = pure () := by
            rw [writeToRemote, hready]
            rfl
          simp only [hwrite, pure_bind]
          exact Proc.Follows.of_pure fun _ h ↦ h

theorem follows_writes {α : Type} (id : ResourceId) (σ : Stage) (m : Proc Written Halt α) :
    (m.mapEffects Effect.write).Follows (plot id σ) fun _ ↦ plot id σ := by
  have hquiet : eventsOf id (m.mapEffects Effect.write).effects = [] := by
    refine eventsOf_eq_nil fun e he ↦ ?_
    obtain ⟨w, -, rfl⟩ := List.mem_map.1 he
    rfl
  constructor
  · intro a _ rest hrest
    rw [plot, eventsOf_append, hquiet]
    exact hrest
  · intro x _
    rw [plot, hquiet]
    exact Story.nil σ

/-- Sending tells the user nothing. -/
theorem follows_processSend (d : Driver R L) (id : ResourceId) (σ : Stage) (endpoint : Endpoint)
    (data : Bytes) (env : SendEnv) :
    (d.processSend endpoint data env).Follows (plot id σ) fun _ ↦ plot id σ := by
  rw [processSend]
  cases endpoint.resourceId.resourceType with
  | remote =>
      cases d.remote endpoint.resourceId with
      | none => exact Proc.Follows.of_pure fun _ h ↦ h
      | some r =>
          cases hr : r.properties.ready with
          | false =>
              simp only [hr]
              exact Proc.Follows.of_pure fun _ h ↦ h
          | true =>
              simp only [hr]
              exact Proc.Follows.bind (follows_writes id σ _)
                fun _ _ ↦ Proc.Follows.of_pure fun _ h ↦ h
  | «local» =>
      cases d.listener endpoint.resourceId with
      | none => exact Proc.Follows.of_pure fun _ h ↦ h
      | some l =>
          exact Proc.Follows.bind (follows_ofExcept id σ _)
            fun _ _ ↦ Proc.Follows.of_pure fun _ h ↦ h

/-- A registered remote is pending, and nothing has been told about it. -/
theorem follows_processAcceptRegisterRemote (d : Driver R L)
    (localPair remotePair : ResourceId × SocketAddr) (stream : TcpStream) (payload : Payload)
    (env : RegisterEnv) :
    (d.processAcceptRegisterRemote localPair remotePair stream payload env).Follows
      (plot remotePair.1 (.pending ⟨remotePair.1, remotePair.2⟩ (some localPair.1)))
      fun d' ↦ plot remotePair.1 (d'.stage remotePair.1) := by
  refine Proc.Follows.bind (follows_ofExcept _ _ _) fun resource _ ↦ ?_
  refine Proc.Follows.of_ofExcept (plot_nil _ _) fun d' hd' rest hrest ↦ ?_
  rwa [stage_pending (remote_registerRemote hd').1 rfl] at hrest

theorem follows_processConnectRegisterRemote (d : Driver R L) (localAddr : SocketAddr)
    (remotePair : ResourceId × SocketAddr) (stream : TcpStream) (payload : Payload)
    (cb : Callback) (env : RegisterEnv) :
    (d.processConnectRegisterRemote localAddr remotePair stream payload cb env).Follows
      (plot remotePair.1 (.pending ⟨remotePair.1, remotePair.2⟩ none))
      fun d' ↦ plot remotePair.1 (d'.stage remotePair.1) := by
  refine Proc.Follows.bind (follows_ofExcept _ _ _) fun resource _ ↦ ?_
  refine Proc.Follows.bind (L := fun d' ↦ plot remotePair.1 (d'.stage remotePair.1)) ?_
    fun d' _ ↦ ?_
  · refine Proc.Follows.of_ofExcept (plot_nil _ _) fun d' hd' rest hrest ↦ ?_
    rwa [stage_pending (remote_registerRemote hd').1 rfl] at hrest
  · exact Proc.Follows.bind (follows_effect rfl _) fun _ _ ↦ Proc.Follows.of_pure fun _ h ↦ h

/-- A call that is no write event keeps to the story, as long as it does not register the id. -/
theorem follows_call_other (d : Driver R L) {id : ResourceId} (hid : id.resourceType = .remote)
    {c : Call} (hwrite : ∀ id' env, c ≠ .write id' env)
    (hc : ∀ r, c.registers = some r → r.1.resourceId ≠ id) :
    (d.call c).Follows (plot id (d.stage id)) fun d' ↦ plot id (d'.stage id) := by
  cases c with
  | read id' env reads accepts => exact follows_processRead d hid id' env reads accepts
  | write id' env => exact absurd rfl (hwrite id' env)
  | acceptRegisterRemote localPair remotePair stream payload env =>
      have hne : id ≠ remotePair.1 := (hc _ rfl).symm
      refine Proc.Follows.bind (follows_ofExcept _ _ _) fun resource _ ↦ ?_
      refine Proc.Follows.of_ofExcept (plot_nil _ _) fun d' hd' rest hrest ↦ ?_
      rwa [stage_congr ((remote_registerRemote hd').2 id hne)] at hrest
  | connectRegisterRemote localAddr remotePair stream payload cb env =>
      have hne : id ≠ remotePair.1 := (hc _ rfl).symm
      refine Proc.Follows.bind (follows_ofExcept _ _ _) fun resource _ ↦ ?_
      refine Proc.Follows.bind (L := fun d' ↦ plot id (d'.stage id)) ?_ fun d' _ ↦ ?_
      · refine Proc.Follows.of_ofExcept (plot_nil _ _) fun d' hd' rest hrest ↦ ?_
        rwa [stage_congr ((remote_registerRemote hd').2 id hne)] at hrest
      · exact Proc.Follows.bind (follows_effect rfl _) fun _ _ ↦ Proc.Follows.of_pure fun _ h ↦ h
  | listen config localId addr cb env =>
      refine Proc.Follows.bind (follows_ofExcept _ _ _) fun info _ ↦ ?_
      cases info with
      | error err =>
          exact Proc.Follows.bind (follows_effect rfl _) fun _ _ ↦ Proc.Follows.of_pure fun _ h ↦ h
      | ok l =>
          refine Proc.Follows.bind (L := fun d' ↦ plot id (d'.stage id)) ?_ fun d' _ ↦ ?_
          · refine Proc.Follows.of_ofExcept (plot_nil _ _) fun d' hd' rest hrest ↦ ?_
            rwa [stage_congr (remote_registerLocal hd' id)] at hrest
          · exact Proc.Follows.bind (follows_effect rfl _)
              fun _ _ ↦ Proc.Follows.of_pure fun _ h ↦ h
  | connect config remoteId raddr cb env =>
      refine Proc.Follows.bind (L := fun _ ↦ plot id (d.stage id)) ?_
        fun _ _ ↦ Proc.Follows.of_pure fun _ h ↦ h
      refine Proc.Follows.bind (follows_ofExcept _ _ _) fun info _ ↦ ?_
      cases info with
      | error err => exact Proc.Follows.of_pure fun _ h ↦ h
      | ok info => exact follows_effect rfl _
  | send endpoint data env =>
      exact Proc.Follows.bind (follows_processSend d id _ endpoint data env)
        fun _ _ ↦ Proc.Follows.of_pure fun _ h ↦ h
  | close id' => exact follows_processClose d id id'
  | isReady id' cb =>
      exact Proc.Follows.bind (follows_effect rfl _) fun _ _ ↦ Proc.Follows.of_pure fun _ h ↦ h

/-- **Every call keeps to the story**, as long as it does not register the id. -/
theorem follows_call (d : Driver R L) {id : ResourceId} (hid : id.resourceType = .remote)
    (hready : ∀ r : R, Remote.readyToWrite r = true) {c : Call}
    (hc : ∀ r, c.registers = some r → r.1.resourceId ≠ id) :
    (d.call c).Follows (plot id (d.stage id)) fun d' ↦ plot id (d'.stage id) := by
  by_cases hwrite : ∃ id' env, c = .write id' env
  · obtain ⟨id', env, rfl⟩ := hwrite
    exact follows_processWrite d hready id id' env
  · exact follows_call_other d hid (fun id' env h ↦ hwrite ⟨id', env, h⟩) hc

/-! ## Runs -/

/-- A call that registers a remote starts its story. -/
theorem follows_call_of_registers (d : Driver R L) {c : Call} {endpoint : Endpoint}
    {localId : Option ResourceId} (h : c.registers = some (endpoint, localId)) :
    (d.call c).Follows (plot endpoint.resourceId (.pending endpoint localId))
      fun d' ↦ plot endpoint.resourceId (d'.stage endpoint.resourceId) := by
  cases c with
  | acceptRegisterRemote localPair remotePair stream payload env =>
      cases h
      exact follows_processAcceptRegisterRemote d localPair remotePair stream payload env
  | connectRegisterRemote localAddr remotePair stream payload cb env =>
      cases h
      exact follows_processConnectRegisterRemote d localAddr remotePair stream payload cb env
  | read => cases h
  | write => cases h
  | listen => cases h
  | connect => cases h
  | send => cases h
  | close => cases h
  | isReady => cases h

omit [Adapter R L] in
/-- A registered remote still has something to tell. -/
theorem remote_eq_none {d : Driver R L} {id : ResourceId}
    (h : ∀ rest, plot id (d.stage id) rest → eventsOf id rest = []) : d.remote id = none := by
  cases hreg : d.remote id with
  | none => rfl
  | some r =>
      exfalso
      cases hr : r.properties.ready with
      | true =>
          have hself : eventsOf id [.emit (.network (.disconnected ⟨id, r.properties.peerAddr⟩))] =
              [.disconnected ⟨id, r.properties.peerAddr⟩] := eventsOf_event_self rfl []
          have htold := h [.emit (.network (.disconnected ⟨id, r.properties.peerAddr⟩))] <| by
            rw [stage_ready hreg hr, plot, hself]
            exact Told.disconnected _
          rw [hself] at htold
          cases htold
      | false =>
          have hopen : (opening ⟨id, r.properties.peerAddr⟩
              r.properties.localId).endpoint.resourceId = id := by
            cases r.properties.localId <;> rfl
          have hself := eventsOf_event_self hopen []
          have htold := h _ <| by
            rw [stage_pending hreg hr, plot, hself]
            exact .inr (.inr ⟨[], rfl, Told.nil _⟩)
          rw [hself] at htold
          cases htold

/-- Calls of some kind, one after another; one that does not return is the last one. -/
def runs {C : Type} (act : Driver R L → C → Action (Driver R L)) (d : Driver R L) :
    List C → Action (Driver R L)
  | [] => return d
  | c :: calls => do
      let d ← act d c
      runs act d calls

theorem run_eq_runs (d : Driver R L) (calls : List Call) : d.run calls = runs call d calls := by
  induction calls generalizing d with
  | nil => rfl
  | cons c calls ih =>
      show (d.call c >>= fun d ↦ d.run calls) = (d.call c >>= fun d ↦ runs call d calls)
      congr 1
      funext d
      exact ih d

/-- All calls of a run that return are such calls. -/
def Throughout {C : Type} (act : Driver R L → C → Action (Driver R L))
    (ok : Driver R L → C → Prop) : Driver R L → List C → Prop
  | _, [] => True
  | d, c :: calls => ∀ d', (act d c).result = .ok d' → ok d c ∧ Throughout act ok d' calls

omit [Adapter R L] in
theorem throughout_of_forall {C : Type} {act : Driver R L → C → Action (Driver R L)}
    {ok : Driver R L → C → Prop} {calls : List C} (h : ∀ c ∈ calls, ∀ d, ok d c)
    (d : Driver R L) : Throughout act ok d calls := by
  induction calls generalizing d with
  | nil => trivial
  | cons c calls ih =>
      exact fun d' _ ↦ ⟨h c List.mem_cons_self d,
        ih (fun c' hc' ↦ h c' (List.mem_cons_of_mem c hc')) d'⟩

/-- **Calls that keep to the story** of every id: those that register an id start its story, and the
others go on with it. -/
structure KeepsStory {C : Type} (act : Driver R L → C → Action (Driver R L))
    (registers : C → Option (Endpoint × Option ResourceId)) (ok : Driver R L → C → Prop) :
    Prop where
  follows : ∀ (d : Driver R L) {c : C} {id : ResourceId}, id.resourceType = .remote →
    (∀ d', (act d c).result = .ok d' → ok d c) →
    (∀ r, registers c = some r → r.1.resourceId ≠ id) →
    (act d c).Follows (plot id (d.stage id)) fun d' ↦ plot id (d'.stage id)
  starts : ∀ (d : Driver R L) {c : C} {endpoint : Endpoint} {localId : Option ResourceId},
    registers c = some (endpoint, localId) →
    (act d c).Follows (plot endpoint.resourceId (.pending endpoint localId))
      fun d' ↦ plot endpoint.resourceId (d'.stage endpoint.resourceId)

/-- So do all calls of an adapter whose `ready_to_write` is the one of the trait. -/
theorem keepsStory_call (hready : ∀ r : R, Remote.readyToWrite r = true) :
    KeepsStory (call : Driver R L → Call → Action (Driver R L)) Call.registers
      fun _ _ ↦ True where
  follows d _ _ hid _ hc := follows_call d hid hready hc
  starts d _ _ _ hc := follows_call_of_registers d hc

namespace KeepsStory

variable {C : Type} {act : Driver R L → C → Action (Driver R L)}
  {registers : C → Option (Endpoint × Option ResourceId)} {ok : Driver R L → C → Prop}
  {d d' : Driver R L} {id : ResourceId} {endpoint : Endpoint} {localId : Option ResourceId}

omit [Adapter R L]

/-- Calls that do not register an id keep to its story. -/
theorem run (h : KeepsStory act registers ok) (hid : id.resourceType = .remote) {calls : List C}
    (hok : Throughout act ok d calls)
    (hc : ∀ r ∈ calls.filterMap registers, r.1.resourceId ≠ id) :
    (runs act d calls).Follows (plot id (d.stage id)) fun d' ↦ plot id (d'.stage id) := by
  induction calls generalizing d with
  | nil => exact Proc.Follows.of_pure fun _ h ↦ h
  | cons c calls ih =>
      refine Proc.Follows.bind (h.follows d hid (fun d' hd' ↦ (hok d' hd').1) fun r hr ↦ hc r ?_)
        fun d' hd' ↦ ih (hok d' hd').2 ?_
      · exact List.mem_filterMap.2 ⟨c, List.mem_cons_self, hr⟩
      · intro r hr
        obtain ⟨c', hc', hr⟩ := List.mem_filterMap.1 hr
        exact hc r (List.mem_filterMap.2 ⟨c', List.mem_cons_of_mem c hc', hr⟩)

/-- A call that does not register an id does not bring it back. -/
theorem absent (h : KeepsStory act registers ok) (hid : id.resourceType = .remote) {c : C}
    (hok : ok d c) (hc : ∀ r, registers c = some r → r.1.resourceId ≠ id)
    (habsent : d.remote id = none) (hd' : (act d c).result = .ok d') :
    eventsOf id (act d c).effects = [] ∧ d'.remote id = none := by
  have hstory := h.follows d hid (fun _ _ ↦ hok) hc
  rw [stage_absent habsent] at hstory
  have hquiet : eventsOf id (act d c).effects = [] := hstory.effects_mem fun d' ↦ plot_nil id _
  refine ⟨hquiet, remote_eq_none fun rest hrest ↦ ?_⟩
  have hall : eventsOf id ((act d c).effects ++ rest) = [] := hstory.1 d' hd' rest hrest
  rwa [eventsOf_append, hquiet] at hall

/-- What a call does that does not register an id of which nothing is known. -/
theorem quiet (h : KeepsStory act registers ok) (hid : id.resourceType = .remote) {c : C}
    (hok : ∀ d', (act d c).result = .ok d' → ok d c)
    (hc : ∀ r, registers c = some r → r.1.resourceId ≠ id) (habsent : d.remote id = none)
    (σ : Stage) : (act d c).Follows (plot id σ) fun _ ↦ plot id σ := by
  constructor
  · intro d' hd' rest hrest
    rw [plot, eventsOf_append, (h.absent hid (hok d' hd') hc habsent hd').1]
    exact hrest
  · intro x hx
    have hstory := h.follows d hid hok hc
    rw [stage_absent habsent] at hstory
    have hquiet : eventsOf id (act d c).effects = [] := hstory.2 x hx
    rw [plot, hquiet]
    exact Story.nil σ

/-- **The story of a remote is told from its registration on.**  Ids are registered at
most once. -/
theorem told (h : KeepsStory act registers ok) (hid : endpoint.resourceId.resourceType = .remote)
    {calls : List C} (hok : Throughout act ok d calls)
    (hfresh : ((calls.filterMap registers).map fun r ↦ r.1.resourceId).Nodup)
    (hreg : (endpoint, localId) ∈ calls.filterMap registers)
    (habsent : d.remote endpoint.resourceId = none) :
    (runs act d calls).Follows (plot endpoint.resourceId (.pending endpoint localId))
      fun d' ↦ plot endpoint.resourceId (d'.stage endpoint.resourceId) := by
  induction calls generalizing d with
  | nil => cases hreg
  | cons c calls ih =>
      by_cases hc : registers c = some (endpoint, localId)
      · rw [List.filterMap_cons_some hc, List.map_cons, List.nodup_cons] at hfresh
        refine Proc.Follows.bind (h.starts d hc)
          fun d' hd' ↦ h.run hid (hok d' hd').2 fun r hr heq ↦ hfresh.1 ?_
        exact List.mem_map.2 ⟨r, hr, heq⟩
      · -- the registration is still to come
        have hmore : (endpoint, localId) ∈ calls.filterMap registers := by
          obtain ⟨c', hc', hr⟩ := List.mem_filterMap.1 hreg
          rcases List.mem_cons.1 hc' with rfl | hc'
          · exact absurd hr hc
          · exact List.mem_filterMap.2 ⟨c', hc', hr⟩
        have hother : ∀ r, registers c = some r → r.1.resourceId ≠ endpoint.resourceId := by
          intro r hr heq
          rw [List.filterMap_cons_some hr, List.map_cons, List.nodup_cons] at hfresh
          exact hfresh.1 (List.mem_map.2 ⟨_, hmore, heq.symm⟩)
        have hfresh' : ((calls.filterMap registers).map fun r ↦ r.1.resourceId).Nodup := by
          cases hr : registers c with
          | none => rwa [List.filterMap_cons_none hr] at hfresh
          | some r =>
              rw [List.filterMap_cons_some hr, List.map_cons, List.nodup_cons] at hfresh
              exact hfresh.2
        refine Proc.Follows.bind
          (h.quiet hid (fun d' hd' ↦ (hok d' hd').1) hother habsent (.pending endpoint localId))
          fun d' hd' ↦ ?_
        obtain ⟨hokc, hok'⟩ := hok d' hd'
        exact ih hok' hfresh' hmore (h.absent hid hokc hother habsent hd').2

theorem story (h : KeepsStory act registers ok) (hid : endpoint.resourceId.resourceType = .remote)
    {calls : List C} (hok : Throughout act ok d calls)
    (hfresh : ((calls.filterMap registers).map fun r ↦ r.1.resourceId).Nodup)
    (hreg : (endpoint, localId) ∈ calls.filterMap registers)
    (habsent : d.remote endpoint.resourceId = none) :
    Story (.pending endpoint localId)
      (eventsOf endpoint.resourceId (runs act d calls).effects) :=
  (h.told hid hok hfresh hreg habsent).effects_mem fun _ ↦ plot_nil _ _

/-- A remote that is pending was registered, and nothing has been told of it. -/
theorem of_pending (h : KeepsStory act registers ok) (hid : id.resourceType = .remote)
    {calls : List C} (hok : Throughout act ok d calls)
    (hfresh : ((calls.filterMap registers).map fun r ↦ r.1.resourceId).Nodup)
    (habsent : d.remote id = none) (hd' : (runs act d calls).result = .ok d')
    {r : Register R RemoteProperties} (hreg : d'.remote id = some r)
    (hr : r.properties.ready = false) :
    (⟨id, r.properties.peerAddr⟩, r.properties.localId) ∈ calls.filterMap registers ∧
      eventsOf id (runs act d calls).effects = [] := by
  have hopen : (opening ⟨id, r.properties.peerAddr⟩ r.properties.localId).endpoint.resourceId =
      id := by
    cases r.properties.localId <;> rfl
  -- the opening is what can be told next
  have hnext : plot id (d'.stage id)
      [.emit (.network (opening ⟨id, r.properties.peerAddr⟩ r.properties.localId))] := by
    rw [stage_pending hreg hr, plot, eventsOf_event_self hopen]
    exact .inr (.inr ⟨[], rfl, Told.nil _⟩)
  by_cases hmem : ∃ x ∈ calls.filterMap registers, x.1.resourceId = id
  · obtain ⟨⟨endpoint, localId⟩, hmem, rfl⟩ := hmem
    have hstory := (h.told hid hok hfresh hmem habsent).1 d' hd' _ hnext
    rw [plot, eventsOf_append, eventsOf_event_self hopen] at hstory
    obtain ⟨hquiet, hendpoint, hlocalId⟩ := Story.of_opening hstory
    rw [hendpoint, hlocalId]
    exact ⟨hmem, hquiet⟩
  · have hstory := (h.run hid hok fun x hx heq ↦ hmem ⟨x, hx, heq⟩).1 d' hd' _ hnext
    rw [stage_absent habsent, plot, eventsOf_append, eventsOf_event_self hopen] at hstory
    exact absurd hstory (List.append_ne_nil_of_right_ne_nil _ nofun)

/-- Nothing is told of an id that is not registered. -/
theorem eventsOf_of_absent (h : KeepsStory act registers ok) (hid : id.resourceType = .remote)
    {calls : List C} (hok : Throughout act ok d calls)
    (hc : ∀ r ∈ calls.filterMap registers, r.1.resourceId ≠ id) (habsent : d.remote id = none) :
    eventsOf id (runs act d calls).effects = [] := by
  have hstory := h.run hid hok hc
  rw [stage_absent habsent] at hstory
  exact hstory.effects_mem fun d' ↦ plot_nil id _

end KeepsStory

/-- Nothing is told of an id behind its close. -/
theorem eventsOf_run_close {d : Driver R L} {id : ResourceId} (hid : id.resourceType = .remote)
    (hready : ∀ r : R, Remote.readyToWrite r = true) {calls more : List Call}
    (hc : ∀ r ∈ more.filterMap Call.registers, r.1.resourceId ≠ id) :
    eventsOf id (d.run (calls ++ .close id :: more)).effects =
      eventsOf id (d.run calls).effects := by
  rw [run_append]
  cases hres : (d.run calls).result with
  | error x => rw [Proc.effects_bind_error hres]
  | ok d₁ =>
      have hclosed : (d₁.processClose id).1.remote id = none := by
        rw [processClose, hid]
        exact remote_deregisterRemote_self d₁ id
      have hquiet := (keepsStory_call (L := L) hready).eventsOf_of_absent hid
        (throughout_of_forall (fun _ _ _ ↦ trivial) _) hc hclosed
      rw [← run_eq_runs] at hquiet
      rw [Proc.effects_bind_ok hres, eventsOf_append]
      change _ ++ eventsOf id ((d₁.processClose id).1.run more).effects = _
      rw [hquiet, List.append_nil]

/-! ## Failures -/

omit [Adapter R L] in
/-- The front of `process_read` and `process_write`, of a remote that turns out to have failed. -/
theorem whenReady_of_failed [Remote R] {d : Driver R L} {id : ResourceId}
    {r : Register R RemoteProperties} {env : PendingEnv} {resource : R} (h : d.remote id = some r)
    (hr : r.properties.ready = false)
    (hpending : Remote.pending r.resource env = .ok (.disconnected, resource)) :
    (d.whenReady id env).effects =
        (tellFailed ⟨id, r.properties.peerAddr⟩ r.properties.localId).effects ∧
      (d.whenReady id env).result = .ok (d.deregisterRemote id, none) := by
  rw [whenReady, h]
  simp only [resolveUnlessReady, hr, Bool.false_eq_true, if_false, resolvePendingRemote, hpending,
    Proc.ofExcept_ok_bind]
  have hnone : (if r.properties.ready = true then
      some ((⟨id, r.properties.peerAddr⟩ : Endpoint), { r with resource }) else none) = none := by
    rw [hr]
    rfl
  cases r.properties.localId <;>
    exact ⟨rfl, congrArg (fun x ↦ Except.ok (d.deregisterRemote id, x)) hnone⟩

/-- The call polls the remote `id`, which is pending, and its adapter finds that it has failed. -/
def FindsFailed (d : Driver R L) (id : ResourceId) (c : Call) : Prop :=
  ∃ r env resource, d.remote id = some r ∧ r.properties.ready = false ∧
    Remote.pending r.resource env = .ok (.disconnected, resource) ∧
      (c = .write id env ∨ ∃ reads accepts, c = .read id env reads accepts)

/-- The events of a failure: none, if the remote was accepted. -/
theorem FindsFailed.call {d : Driver R L} {id : ResourceId} {c : Call} (h : d.FindsFailed id c)
    (hid : id.resourceType = .remote) : ∃ r, d.remote id = some r ∧ r.properties.ready = false ∧
      (d.call c).effects = (tellFailed ⟨id, r.properties.peerAddr⟩ r.properties.localId).effects ∧
        (d.call c).result = .ok (d.deregisterRemote id) := by
  obtain ⟨r, env, resource, hreg, hr, hpending, hc⟩ := h
  obtain ⟨heffects, hresult⟩ := whenReady_of_failed hreg hr hpending
  refine ⟨r, hreg, hr, ?_⟩
  rcases hc with rfl | ⟨reads, accepts, rfl⟩
  · rw [Driver.call, processWrite, hid]
    simp only
    rw [Proc.effects_bind_ok hresult, Proc.result_bind_ok hresult, heffects]
    exact ⟨List.append_nil _, rfl⟩
  · rw [Driver.call, processRead, hid]
    simp only
    rw [Proc.effects_bind_ok hresult, Proc.result_bind_ok hresult, heffects]
    exact ⟨List.append_nil _, rfl⟩

/-- **A remote that fails before it is ready** has one event, if it was to be connected, and none
if it was accepted. -/
theorem eventsOf_run_failed {d d' : Driver R L} {id : ResourceId} (hid : id.resourceType = .remote)
    (hready : ∀ r : R, Remote.readyToWrite r = true) {before after : List Call} {c : Call}
    (hfresh : (((before ++ c :: after).filterMap Call.registers).map fun r ↦ r.1.resourceId).Nodup)
    (habsent : d.remote id = none) (hd' : (d.run before).result = .ok d')
    (hfailed : d'.FindsFailed id c) :
    ∃ addr localId, ((⟨id, addr⟩ : Endpoint), localId) ∈ before.filterMap Call.registers ∧
      eventsOf id (d.run (before ++ c :: after)).effects =
        eventsOf id (tellFailed ⟨id, addr⟩ localId).effects := by
  have hkeeps := keepsStory_call (L := L) hready
  obtain ⟨r, hreg, hr, heffects, hresult⟩ := hfailed.call hid
  rw [List.filterMap_append, List.map_append] at hfresh
  rw [run_eq_runs] at hd'
  obtain ⟨hmem, hquiet⟩ := hkeeps.of_pending hid (throughout_of_forall (fun _ _ _ ↦ trivial) _)
    hfresh.of_append_left habsent hd' hreg hr
  rw [← run_eq_runs] at hd' hquiet
  -- the id is not registered again
  have hlater : ∀ x ∈ after.filterMap Call.registers, x.1.resourceId ≠ id := by
    intro x hx heq
    obtain ⟨c', hc', hx⟩ := List.mem_filterMap.1 hx
    have hx' : x ∈ (c :: after).filterMap Call.registers :=
      List.mem_filterMap.2 ⟨c', List.mem_cons_of_mem c hc', hx⟩
    exact (List.nodup_append.1 hfresh).2.2 _ (List.mem_map_of_mem hmem) _ (List.mem_map_of_mem hx')
      heq.symm
  have hrest := hkeeps.eventsOf_of_absent hid (throughout_of_forall (fun _ _ _ ↦ trivial) _) hlater
    (remote_deregisterRemote_self d' id)
  rw [← run_eq_runs] at hrest
  have hrun : (d'.run (c :: after)).effects = (d'.call c).effects ++
      ((d'.deregisterRemote id).run after).effects := Proc.effects_bind_ok hresult _
  refine ⟨_, _, hmem, ?_⟩
  rw [run_append, Proc.effects_bind_ok hd', eventsOf_append, hquiet, hrun, eventsOf_append, hrest,
    heffects, List.nil_append, List.append_nil]

end Adapter

end Driver

/-! ## TCP -/

namespace TcpDriver

open Driver

/-- **What the user is told about a TCP remote**, over any run of a driver in which
every id is registered at most once.  A remote that was connected tells `Connected`
with `true`, messages and `Disconnected`, or only `Connected` with `false`; one that
was accepted tells `Accepted`, messages and `Disconnected`; an id that was not
registered tells nothing, and nothing is told behind a `close`.  A remote that is found to
have failed before it is ready tells nothing at all if it was accepted, and only `Connected`
with `false` if it was connected. -/
theorem events_in_order (calls : List Call)
    (hfresh : ((calls.filterMap Call.registers).map fun r ↦ r.1.resourceId).Nodup)
    (id : ResourceId) (hid : id.resourceType = .remote) :
    (∀ addr, ((⟨id, addr⟩ : Endpoint), none) ∈ calls.filterMap Call.registers →
      eventsOf id ((new : TcpDriver).run calls).effects <+: [.connected ⟨id, addr⟩ false] ∨
      ∃ msgs : List Bytes, eventsOf id ((new : TcpDriver).run calls).effects <+:
        .connected ⟨id, addr⟩ true :: msgs.map (.message ⟨id, addr⟩) ++
          [.disconnected ⟨id, addr⟩]) ∧
    (∀ addr listenerId, ((⟨id, addr⟩ : Endpoint), some listenerId) ∈
        calls.filterMap Call.registers →
      ∃ msgs : List Bytes, eventsOf id ((new : TcpDriver).run calls).effects <+:
        .accepted ⟨id, addr⟩ listenerId :: msgs.map (.message ⟨id, addr⟩) ++
          [.disconnected ⟨id, addr⟩]) ∧
    ((∀ r ∈ calls.filterMap Call.registers, r.1.resourceId ≠ id) →
      eventsOf id ((new : TcpDriver).run calls).effects = []) ∧
    (∀ before after, calls = before ++ .close id :: after →
      (∀ r ∈ after.filterMap Call.registers, r.1.resourceId ≠ id) →
      eventsOf id ((new : TcpDriver).run calls).effects =
        eventsOf id ((new : TcpDriver).run before).effects) ∧
    ∀ before c after d, calls = before ++ c :: after →
      ((new : TcpDriver).run before).result = .ok d → d.FindsFailed id c →
      (∀ addr listenerId, ((⟨id, addr⟩ : Endpoint), some listenerId) ∈
          calls.filterMap Call.registers →
        eventsOf id ((new : TcpDriver).run calls).effects = []) ∧
      ∀ addr, ((⟨id, addr⟩ : Endpoint), none) ∈ calls.filterMap Call.registers →
        eventsOf id ((new : TcpDriver).run calls).effects = [.connected ⟨id, addr⟩ false] := by
  have hready : ∀ r : Tcp.RemoteResource, Remote.readyToWrite r = true := fun _ ↦ rfl
  have hkeeps := keepsStory_call (L := Tcp.LocalResource) hready
  have hok : Throughout call (fun _ _ ↦ True) (new : TcpDriver) calls :=
    throughout_of_forall (fun _ _ _ ↦ trivial) _
  have hstory : ∀ {addr localId}, ((⟨id, addr⟩ : Endpoint), localId) ∈
      calls.filterMap Call.registers →
      Story (.pending ⟨id, addr⟩ localId) (eventsOf id ((new : TcpDriver).run calls).effects) := by
    intro addr localId hreg
    have hid' : (Endpoint.mk id addr).resourceId.resourceType = .remote := hid
    rw [run_eq_runs]
    exact hkeeps.story hid' hok hfresh hreg rfl
  refine ⟨fun addr hreg ↦ ?_, fun addr listenerId hreg ↦ ?_, fun hnone ↦ ?_, ?_, ?_⟩
  · rcases hstory hreg with hes | ⟨-, hes⟩ | ⟨rest, hes, msgs, h⟩
    · exact .inl (hes.symm ▸ List.nil_prefix)
    · exact .inl (hes.symm ▸ List.prefix_refl _)
    · exact .inr ⟨msgs, hes.symm ▸ List.cons_prefix_cons.2 ⟨rfl, h⟩⟩
  · rcases hstory hreg with hes | ⟨hnone, -⟩ | ⟨rest, hes, msgs, h⟩
    · exact ⟨[], hes.symm ▸ List.nil_prefix⟩
    · cases hnone
    · exact ⟨msgs, hes.symm ▸ List.cons_prefix_cons.2 ⟨rfl, h⟩⟩
  · rw [run_eq_runs]
    exact hkeeps.eventsOf_of_absent hid hok hnone (remote_new id)
  · rintro before after rfl hafter
    exact eventsOf_run_close hid hready hafter
  · rintro before c after d rfl hd hfailed
    obtain ⟨addr', localId', hmem, hevents⟩ :=
      eventsOf_run_failed hid hready hfresh (remote_new id) hd hfailed
    have hmem' : ((⟨id, addr'⟩ : Endpoint), localId') ∈
        (before ++ c :: after).filterMap Call.registers := by
      rw [List.filterMap_append]
      exact List.mem_append_left _ hmem
    have hone : ∀ {addr localId}, ((⟨id, addr⟩ : Endpoint), localId) ∈
        (before ++ c :: after).filterMap Call.registers → addr' = addr ∧ localId' = localId := by
      intro addr localId hreg
      cases List.inj_on_of_nodup_map hfresh hmem' hreg rfl
      exact ⟨rfl, rfl⟩
    constructor
    · intro addr listenerId hreg
      obtain ⟨rfl, rfl⟩ := hone hreg
      exact hevents
    · intro addr hreg
      obtain ⟨rfl, rfl⟩ := hone hreg
      exact hevents.trans (eventsOf_event_self rfl [])

/-- A stream to a server and a stream from the listener `0x80`, both still pending. -/
def connectAndAccept : List Call :=
  [.connectRegisterRemote (.localhost 80) (⟨1⟩, .localhost 80) ⟨0⟩ (.tcpConnect none) ⟨0⟩ .fine,
    .acceptRegisterRemote (⟨0x80⟩, .localhost 80) (⟨3⟩, .localhost 80) ⟨1⟩ (.tcpAccept none) .fine]

/-- A remote connects, sends a byte and hangs up, and a stale event comes behind that; another one
is accepted, fails, and is polled again. -/
theorem events_in_order_hang_up :
    let id : ResourceId := ⟨1⟩
    let acceptedId : ResourceId := ⟨3⟩
    let addr : SocketAddr := .localhost 80
    let connected := PendingEnv.connectedTo addr
    let failed : PendingEnv := { connected with takeError := .ok (some ⟨.other, none⟩) }
    let after : List Call :=
      [.write id connected,
        .read id connected [.ofRead (.ok [7]), .ofRead (.ok [])] [],
        .read acceptedId connected [.ofRead (.ok [9])] [],
        .read id connected [.ofRead (.ok [8])] []]
    let calls := connectAndAccept ++ .write acceptedId failed :: after
    eventsOf id ((new : TcpDriver).run calls).effects =
        [.connected ⟨id, addr⟩ true, .message ⟨id, addr⟩ [7], .disconnected ⟨id, addr⟩] ∧
      (eventsOf id ((new : TcpDriver).run calls).effects <+: [.connected ⟨id, addr⟩ false] ∨
        ∃ msgs : List Bytes, eventsOf id ((new : TcpDriver).run calls).effects <+:
          .connected ⟨id, addr⟩ true :: msgs.map (.message ⟨id, addr⟩) ++
            [.disconnected ⟨id, addr⟩]) ∧
        eventsOf acceptedId ((new : TcpDriver).run calls).effects = [] := by
  intro id acceptedId addr connected failed after calls
  have hfresh : ((calls.filterMap Call.registers).map fun r ↦ r.1.resourceId).Nodup := by decide
  -- the stream that is accepted is registered and pending when its connection fails
  obtain ⟨d, hd, hfailed⟩ : ∃ d, ((new : TcpDriver).run connectAndAccept).result = .ok d ∧
      d.FindsFailed acceptedId (.write acceptedId failed) :=
    ⟨_, rfl, ⟨⟨⟨1⟩, none⟩, addr, some ⟨0x80⟩, false⟩, failed, _, rfl, rfl, rfl, .inl rfl⟩
  refine ⟨by decide, (events_in_order calls hfresh id (by decide)).1 addr List.mem_cons_self, ?_⟩
  exact ((events_in_order calls hfresh acceptedId (by decide)).2.2.2.2 connectAndAccept _ after d
    rfl hd hfailed).1 addr ⟨0x80⟩ (List.mem_cons_of_mem _ List.mem_cons_self)

end TcpDriver

end MessageIo
