import MessageIo.Lib.Transition
import MessageIo.Network.EventOrder

/-!
# What one call makes of the remotes

Every call of a driver touches at most one remote, and what it makes of this one follows from
what `pending` and `receive` answer: `Resolves` is the front of both poll events, `Reads` is
the whole of the one that reads.  Both tell what the register is in the end and whether it is
still there.  A register that is not is dropped as soon as the call returns.

`call_done` lists what a call can do.  Invariants of a driver are a case analysis over it.
-/

namespace MessageIo

/-! ## Messages -/

/-- The data of a message about one resource. -/
def messageOf (id : ResourceId) : Effect → Option Bytes
  | .emit (.network (.message endpoint data)) =>
      if endpoint.resourceId = id then some data else none
  | _ => none

/-- The data of the messages about one resource, in order. -/
def messagesOf (id : ResourceId) (effects : List Effect) : List Bytes :=
  effects.filterMap (messageOf id)

theorem messagesOf_append (id : ResourceId) (es fs : List Effect) :
    messagesOf id (es ++ fs) = messagesOf id es ++ messagesOf id fs := List.filterMap_append

/-- An effect that is not a message. -/
def Effect.NoMessage (e : Effect) : Prop := ∀ id, messageOf id e = none

theorem messagesOf_eq_nil (id : ResourceId) {es : List Effect} (h : ∀ e ∈ es, e.NoMessage) :
    messagesOf id es = [] := List.filterMap_eq_nil_iff.2 fun e he ↦ h e he id

/-- What one remote has received. -/
theorem messagesOf_received (endpoint : Endpoint) (data : List Bytes) :
    messagesOf endpoint.resourceId
      (data.map fun d ↦ .emit (.network (.message endpoint d))) = data := by
  induction data with
  | nil => rfl
  | cons d data ih =>
      have hd : messageOf endpoint.resourceId (.emit (.network (.message endpoint d))) = some d :=
        if_pos rfl
      rw [List.map_cons, messagesOf, List.filterMap_cons_some hd]
      exact congrArg _ ih

theorem messagesOf_received_of_ne {endpoint : Endpoint} {id : ResourceId}
    (h : endpoint.resourceId ≠ id) (data : List Bytes) :
    messagesOf id (data.map fun d ↦ .emit (.network (.message endpoint d))) = [] := by
  refine List.filterMap_eq_nil_iff.2 fun e he ↦ ?_
  obtain ⟨d, -, rfl⟩ := List.mem_map.1 he
  exact if_neg h

namespace Driver

variable {R L : Type}

/-! ## One remote -/

section Remote

variable [Remote R]

/-- **What the front of a poll event makes of a remote**: the register after it, and whether it
is still registered. -/
inductive Resolves (env : PendingEnv) (r : Register R RemoteProperties) :
    Register R RemoteProperties → Bool → Prop
  | wasReady (h : r.properties.ready = true) : Resolves env r r true
  | ready {resource : R} (h : r.properties.ready = false)
      (hpending : Remote.pending r.resource env = .ok (.ready, resource)) :
      Resolves env r ⟨resource, r.properties.markAsReady⟩ true
  | incomplete {resource : R} (h : r.properties.ready = false)
      (hpending : Remote.pending r.resource env = .ok (.incomplete, resource)) :
      Resolves env r ⟨resource, r.properties⟩ true
  | disconnected {resource : R} (h : r.properties.ready = false)
      (hpending : Remote.pending r.resource env = .ok (.disconnected, resource)) :
      Resolves env r ⟨resource, r.properties⟩ false

/-- **What a read makes of a remote**: the data that is told, the register after it, and whether
it is still registered. -/
inductive Reads (env : PendingEnv) (reads : List ReadEnv) (r : Register R RemoteProperties) :
    List Bytes → Register R RemoteProperties → Bool → Prop
  | unready {r' : Register R RemoteProperties} {there : Bool} (h : Resolves env r r' there)
      (hready : r'.properties.ready = false) : Reads env reads r [] r' there
  | waits {r' : Register R RemoteProperties} {resource : R} (h : Resolves env r r' true)
      (hready : r'.properties.ready = true)
      (hreceive : (Remote.receive r'.resource reads).result = .ok (.waitNextEvent, resource)) :
      Reads env reads r (Remote.receive r'.resource reads).effects ⟨resource, r'.properties⟩ true
  | leaves {r' : Register R RemoteProperties} {resource : R} (h : Resolves env r r' true)
      (hready : r'.properties.ready = true)
      (hreceive : (Remote.receive r'.resource reads).result = .ok (.disconnected, resource)) :
      Reads env reads r (Remote.receive r'.resource reads).effects ⟨resource, r'.properties⟩ false

/-- A remote that is ready is still there. -/
theorem Resolves.there {env : PendingEnv} {r r' : Register R RemoteProperties} {there : Bool}
    (h : Resolves env r r' there) (hready : r'.properties.ready = true) : there = true := by
  cases h with
  | wasReady => rfl
  | ready => rfl
  | incomplete => rfl
  | disconnected hr => exact absurd hready (by rw [hr]; exact Bool.false_ne_true)

end Remote

/-! ## One driver -/

/-- One register becomes another one, or is gone; the others stay. -/
structure Becomes (id : ResourceId) (d d' : Driver R L) (r : Register R RemoteProperties)
    (there : Bool) : Prop where
  self : d'.remote id = if there then some r else none
  others : ∀ id', id' ≠ id → d'.remote id' = d.remote id'

theorem Becomes.trans {id : ResourceId} {d d' d'' : Driver R L}
    {r r' : Register R RemoteProperties} {there there' : Bool} (h : Becomes id d d' r there)
    (h' : Becomes id d' d'' r' there') : Becomes id d d'' r' there' :=
  ⟨h'.self, fun id' hne ↦ (h'.others id' hne).trans (h.others id' hne)⟩

theorem becomes_modifyRemote {id : ResourceId} {d : Driver R L} {r : Register R RemoteProperties}
    (hr : d.remote id = some r) (r' : Register R RemoteProperties) :
    Becomes id d (d.modifyRemote id r') r' true where
  self := by rw [remote_modifyRemote_self, hr, Option.map_some, if_pos rfl]
  others _ hne := remote_modifyRemote_of_ne hne r'

theorem becomes_deregisterRemote (id : ResourceId) (d : Driver R L)
    (r : Register R RemoteProperties) : Becomes id d (d.deregisterRemote id) r false where
  self := remote_deregisterRemote_self d id
  others _ hne := remote_deregisterRemote_of_ne hne

/-- Nothing has happened to a register. -/
theorem becomes_refl {id : ResourceId} {d : Driver R L} {r : Register R RemoteProperties}
    (hr : d.remote id = some r) : Becomes id d d r true := ⟨hr, fun _ _ ↦ rfl⟩

theorem afterReceive_cases {d d' : Driver R L} {r : Register R RemoteProperties}
    {endpoint : Endpoint} {status : ReadStatus} (hr : d.remote endpoint.resourceId = some r)
    (h : (d.afterReceive endpoint status).result = .ok d') :
    Becomes endpoint.resourceId d d' r (status = .waitNextEvent) := by
  cases status with
  | waitNextEvent =>
      cases h
      exact becomes_refl hr
  | disconnected =>
      rw [afterReceive] at h
      split at h
      · obtain ⟨_, -, h⟩ := Proc.result_bind_eq_ok h
        cases h
        exact becomes_deregisterRemote _ d r
      · cases h
        exact becomes_deregisterRemote _ d r

theorem noMessage_afterReceive (d : Driver R L) (endpoint : Endpoint) (status : ReadStatus) :
    ∀ e ∈ (d.afterReceive endpoint status).effects, e.NoMessage := by
  have hspec : (d.afterReceive endpoint status).Satisfies Effect.NoMessage (fun _ ↦ True)
      (fun _ ↦ True) := by
    cases status with
    | waitNextEvent => exact .of_pure trivial
    | disconnected =>
        rw [afterReceive]
        split
        · exact .effect_bind (fun _ ↦ rfl) (.of_pure trivial)
        · exact .of_pure trivial
  exact hspec.effects

section Remote

variable [Remote R] {d d' : Driver R L} {id : ResourceId} {env : PendingEnv}

theorem resolvePendingRemote_cases {r r' : Register R RemoteProperties} {endpoint : Endpoint}
    (hr : d.remote endpoint.resourceId = some r) (hready : r.properties.ready = false)
    (h : (d.resolvePendingRemote r endpoint env).result = .ok (d', r')) :
    ∃ there, Resolves env r r' there ∧ Becomes endpoint.resourceId d d' r' there := by
  obtain ⟨⟨status, resource⟩, hpending, h⟩ := Proc.result_bind_eq_ok h
  cases status with
  | ready =>
      obtain ⟨_, -, h⟩ := Proc.result_bind_eq_ok h
      cases h
      exact ⟨true, .ready hready hpending, becomes_modifyRemote hr _⟩
  | incomplete =>
      cases h
      exact ⟨true, .incomplete hready hpending, becomes_modifyRemote hr _⟩
  | disconnected =>
      obtain ⟨_, -, h⟩ := Proc.result_bind_eq_ok h
      cases h
      exact ⟨false, .disconnected hready hpending, becomes_deregisterRemote _ d _⟩

/-- The front of a poll event of a registered remote. -/
theorem whenReady_cases {r : Register R RemoteProperties}
    {out : Option (Endpoint × Register R RemoteProperties)} (hr : d.remote id = some r)
    (h : (d.whenReady id env).result = .ok (d', out)) :
    ∃ r' there, Resolves env r r' there ∧ Becomes id d d' r' there ∧
      out = if r'.properties.ready then some (⟨id, r'.properties.peerAddr⟩, r') else none := by
  rw [whenReady, hr] at h
  obtain ⟨⟨d₁, r'⟩, hresolve, h⟩ := Proc.result_bind_eq_ok h
  have hpeer : r'.properties.peerAddr = r.properties.peerAddr ∧
      ∃ there, Resolves env r r' there ∧ Becomes id d d₁ r' there := by
    rw [resolveUnlessReady] at hresolve
    split at hresolve
    · rename_i hready
      cases hresolve
      exact ⟨rfl, true, .wasReady hready, becomes_refl hr⟩
    · rename_i hready
      obtain ⟨there, hresolves, hbecomes⟩ :=
        resolvePendingRemote_cases hr (Bool.eq_false_iff.2 hready) hresolve
      refine ⟨?_, there, hresolves, hbecomes⟩
      cases hresolves <;> rfl
  obtain ⟨hpeer, there, hresolves, hbecomes⟩ := hpeer
  cases h
  refine ⟨r', there, hresolves, hbecomes, ?_⟩
  rw [hpeer]

/-- No message is told before a remote is read. -/
theorem noMessage_whenReady (d : Driver R L) (id : ResourceId) (env : PendingEnv) :
    ∀ e ∈ (d.whenReady id env).effects, e.NoMessage := by
  have hspec : (d.whenReady id env).Satisfies Effect.NoMessage (fun _ ↦ True) (fun _ ↦ True) := by
    rw [whenReady]
    cases d.remote id with
    | none => exact .of_pure trivial
    | some r =>
        refine Proc.Satisfies.bind (Q := fun _ ↦ True) ?_ fun _ _ ↦ .of_pure trivial
        rw [resolveUnlessReady]
        split
        · exact .of_pure trivial
        · refine Proc.Satisfies.bind (Q := fun _ ↦ True)
            (.of_ofExcept (fun _ _ ↦ trivial) fun _ _ ↦ trivial) ?_
          rintro ⟨status, resource⟩ -
          cases status with
          | ready =>
              cases r.properties.localId with
              | none => exact .effect_bind (fun _ ↦ rfl) (.of_pure trivial)
              | some listenerId => exact .effect_bind (fun _ ↦ rfl) (.of_pure trivial)
          | incomplete => exact .of_pure trivial
          | disconnected =>
              cases r.properties.localId with
              | none => exact .effect_bind (fun _ ↦ rfl) (.of_pure trivial)
              | some listenerId => exact .of_pure trivial
  exact hspec.effects

/-- A read tells the data that `receive` processes. -/
theorem readFromRemote_cases {r : Register R RemoteProperties} (endpoint : Endpoint)
    {reads : List ReadEnv} (hr : d.remote endpoint.resourceId = some r)
    (h : (d.readFromRemote r endpoint reads).result = .ok d') :
    ∃ status resource, (Remote.receive r.resource reads).result = .ok (status, resource) ∧
      Becomes endpoint.resourceId d d' ⟨resource, r.properties⟩ (status = .waitNextEvent) ∧
        messagesOf endpoint.resourceId (d.readFromRemote r endpoint reads).effects =
          (Remote.receive r.resource reads).effects ∧
        ∀ id, endpoint.resourceId ≠ id →
          messagesOf id (d.readFromRemote r endpoint reads).effects = [] := by
  obtain ⟨⟨status, resource⟩, hreceive, hafter⟩ := Proc.result_bind_eq_ok h
  have hmodify := becomes_modifyRemote hr ⟨resource, r.properties⟩
  have heffects := Proc.effects_bind_ok hreceive fun out : ReadStatus × R ↦
    (d.modifyRemote endpoint.resourceId { r with resource := out.2 }).afterReceive endpoint out.1
  have hquiet := fun id ↦ messagesOf_eq_nil id (noMessage_afterReceive
    (d.modifyRemote endpoint.resourceId { r with resource }) endpoint status)
  refine ⟨status, resource, hreceive,
    hmodify.trans (afterReceive_cases hmodify.self hafter), ?_, ?_⟩
  · rw [readFromRemote, heffects, messagesOf_append, hquiet, List.append_nil]
    exact messagesOf_received endpoint _
  · intro id hne
    rw [readFromRemote, heffects, messagesOf_append, hquiet, List.append_nil]
    exact messagesOf_received_of_ne hne _

end Remote

/-! ## The calls of a driver -/

section Adapter

variable [Adapter R L] {d d' : Driver R L}

variable (L) in
/-- The resource that a register command makes. -/
def Made : Call → R → Prop
  | .acceptRegisterRemote _ _ stream payload _, resource =>
      Adapter.acceptedResource L stream payload = .ok resource
  | .connectRegisterRemote _ _ stream payload _ env, resource =>
      Adapter.connectedResource L stream payload env = .ok resource
  | _, _ => False

/-- The resource that an event of the poll is about. -/
def Call.polls : Call → Option ResourceId
  | read id _ _ _ => some id
  | write id _ => some id
  | _ => none

/-- **What a call can do to the remotes**, and what it tells about them. -/
inductive CallDone (d : Driver R L) : Call → List Effect → Driver R L → Prop
  | read {id : ResourceId} {env : PendingEnv} {reads : List ReadEnv} {accepts : List AcceptEnv}
      {es : List Effect} {r r' : Register R RemoteProperties} {there : Bool} {d' : Driver R L}
      (hr : d.remote id = some r) (hreads : Reads env reads r (messagesOf id es) r' there)
      (hbecomes : Becomes id d d' r' there)
      (hquiet : ∀ id', id ≠ id' → messagesOf id' es = []) :
      CallDone d (.read id env reads accepts) es d'
  | write {id : ResourceId} {env : PendingEnv} {es : List Effect}
      {r r' : Register R RemoteProperties} {there : Bool} {d' : Driver R L}
      (hr : d.remote id = some r) (hresolves : Resolves env r r' there)
      (hbecomes : Becomes id d d' r' there) (hquiet : ∀ id', messagesOf id' es = []) :
      CallDone d (.write id env) es d'
  | close {id : ResourceId} {r : Register R RemoteProperties} {d' : Driver R L}
      (hr : d.remote id = some r) (hbecomes : Becomes id d d' r false) :
      CallDone d (.close id) [] d'
  | registers {c : Call} {endpoint : Endpoint} {localId : Option ResourceId} {resource : R}
      {es : List Effect} {d' : Driver R L} (hc : c.registers = some (endpoint, localId))
      (hmade : Made L c resource)
      (hbecomes : Becomes endpoint.resourceId d d' ⟨resource, .new endpoint.addr localId⟩ true)
      (hquiet : ∀ id', messagesOf id' es = []) : CallDone d c es d'
  | same {c : Call} {es : List Effect} {d' : Driver R L} (h : ∀ id, d'.remote id = d.remote id)
      (hquiet : ∀ id', id'.resourceType = .remote → messagesOf id' es = [])
      (hidle : ∀ id', c.polls = some id' → id'.resourceType = .remote → d.remote id' = none) :
      CallDone d c es d'

/-- A listener that is read may tell of messages, but not for remotes. -/
theorem messagesOf_readFromLocal {id id' : ResourceId} (hne : id ≠ id') (l : L)
    (envs : List AcceptEnv) : messagesOf id' (readFromLocal l id envs).effects = [] := by
  have hspec : (readFromLocal l id envs).Satisfies (fun e ↦ messageOf id' e = none) (fun _ ↦ True)
      (fun _ ↦ True) := by
    induction envs with
    | nil => exact .of_halt trivial
    | cons env envs ih =>
        refine Proc.Satisfies.bind (Q := fun _ ↦ True) ?_ fun more _ ↦ ?_
        · rw [acceptTurn]
          split
          · exact Proc.Satisfies.bind (Q := fun _ ↦ True)
              (.of_ofExcept (fun _ _ ↦ trivial) fun _ _ ↦ trivial) fun _ _ ↦
                Proc.Satisfies.bind (Q := fun _ ↦ True)
                  (.of_ofExcept (fun _ _ ↦ trivial) fun _ _ ↦ trivial) fun _ _ ↦
                    .effect_bind rfl (.of_pure trivial)
          · exact .effect_bind (if_neg hne) (.of_pure trivial)
          · exact .of_pure trivial
          · exact .of_pure trivial
        · cases more with
          | true => exact ih
          | false => exact .of_pure trivial
  exact List.filterMap_eq_nil_iff.2 hspec.effects

/-- An event for a remote is processed if the remote is ready. -/
theorem processRead_remote {id : ResourceId} (hid : id.resourceType = .remote) (env : PendingEnv)
    (reads : List ReadEnv) (accepts : List AcceptEnv) :
    d.processRead id env reads accepts = d.whenReady id env >>= fun out ↦
      match out with
      | (d, some (endpoint, remote)) => d.readFromRemote remote endpoint reads
      | (d, none) => pure d := by
  unfold processRead
  split
  · rfl
  · next hlocal => cases hlocal.symm.trans hid

theorem processWrite_remote {id : ResourceId} (hid : id.resourceType = .remote)
    (env : PendingEnv) :
    d.processWrite id env = d.whenReady id env >>= fun out ↦
      match out with
      | (d, some (endpoint, remote)) => do
          writeToRemote remote endpoint
          return d
      | (d, none) => pure d := by
  unfold processWrite
  split
  · rfl
  · next hlocal => cases hlocal.symm.trans hid

theorem processRead_done {id : ResourceId} {env : PendingEnv} {reads : List ReadEnv}
    {accepts : List AcceptEnv} (h : (d.processRead id env reads accepts).result = .ok d') :
    CallDone d (.read id env reads accepts) (d.processRead id env reads accepts).effects d' := by
  cases hid : id.resourceType with
  | «local» =>
      have hidle : ∀ id', (Call.read id env reads accepts).polls = some id' →
          id'.resourceType = .remote → d.remote id' = none := by
        rintro id' hid' hremote
        cases hid'
        cases hid.symm.trans hremote
      rw [processRead, hid] at h ⊢
      cases hl : d.listener id with
      | none =>
          simp only [hl] at h ⊢
          cases h
          exact .same (fun _ ↦ rfl) (fun _ _ ↦ rfl) hidle
      | some l =>
          simp only [hl] at h ⊢
          obtain ⟨_, hread, h⟩ := Proc.result_bind_eq_ok h
          cases h
          refine .same (fun _ ↦ rfl) (fun id' hid' ↦ ?_) hidle
          rw [Proc.effects_bind_ok hread, messagesOf_append, messagesOf_readFromLocal]
          · rfl
          · rintro rfl
            rw [hid] at hid'
            cases hid'
  | remote =>
      rw [processRead_remote hid] at h ⊢
      obtain ⟨⟨d₁, out⟩, hready, h⟩ := Proc.result_bind_eq_ok h
      rw [Proc.effects_bind_ok hready]
      have hquiet := fun id' ↦ messagesOf_eq_nil id' (noMessage_whenReady d id env)
      cases hr : d.remote id with
      | none =>
          rw [whenReady, hr] at hready
          cases hready
          cases h
          refine .same (fun _ ↦ rfl) (fun id' _ ↦ ?_) fun id' hid' _ ↦ ?_
          · rw [messagesOf_append, hquiet]
            rfl
          · cases hid'
            exact hr
      | some r =>
          obtain ⟨r', there, hresolves, hbecomes, hout⟩ := whenReady_cases hr hready
          cases hr' : r'.properties.ready with
          | false =>
              rw [hr', if_neg Bool.false_ne_true] at hout
              subst hout
              cases h
              refine .read hr ?_ hbecomes fun id' _ ↦ ?_
              · rw [messagesOf_append, hquiet]
                exact .unready hresolves hr'
              · rw [messagesOf_append, hquiet]
                rfl
          | true =>
              rw [hr', if_pos rfl] at hout
              subst hout
              obtain rfl := hresolves.there hr'
              obtain ⟨status, resource, hreceive, hbecomes', hself, hothers⟩ :=
                readFromRemote_cases ⟨id, r'.properties.peerAddr⟩ hbecomes.self h
              refine .read hr ?_ (hbecomes.trans hbecomes') fun id' hne ↦ ?_
              · rw [messagesOf_append, hquiet, List.nil_append, hself]
                cases status with
                | waitNextEvent => exact .waits hresolves hr' hreceive
                | disconnected => exact .leaves hresolves hr' hreceive
              · rw [messagesOf_append, hquiet, List.nil_append]
                exact hothers id' hne

theorem processWrite_done {id : ResourceId} {env : PendingEnv}
    (h : (d.processWrite id env).result = .ok d') :
    CallDone d (.write id env) (d.processWrite id env).effects d' := by
  cases hid : id.resourceType with
  | «local» =>
      rw [processWrite, hid] at h ⊢
      cases h
      refine .same (fun _ ↦ rfl) (fun _ _ ↦ rfl) fun id' hid' hremote ↦ ?_
      cases hid'
      cases hid.symm.trans hremote
  | remote =>
      rw [processWrite_remote hid] at h ⊢
      obtain ⟨⟨d₁, out⟩, hready, h⟩ := Proc.result_bind_eq_ok h
      rw [Proc.effects_bind_ok hready]
      have hquiet := fun id' ↦ messagesOf_eq_nil id' (noMessage_whenReady d id env)
      cases hr : d.remote id with
      | none =>
          rw [whenReady, hr] at hready
          cases hready
          cases h
          refine .same (fun _ ↦ rfl) (fun id' _ ↦ ?_) fun id' hid' _ ↦ ?_
          · rw [messagesOf_append, hquiet]
            rfl
          · cases hid'
            exact hr
      | some r =>
          obtain ⟨r', there, hresolves, hbecomes, -⟩ := whenReady_cases hr hready
          cases out with
          | none =>
              cases h
              refine .write hr hresolves hbecomes fun id' ↦ ?_
              rw [messagesOf_append, hquiet]
              rfl
          | some x =>
              obtain ⟨endpoint, remote⟩ := x
              obtain ⟨_, hwrite, h⟩ := Proc.result_bind_eq_ok h
              cases h
              refine .write hr hresolves hbecomes fun id' ↦ ?_
              rw [messagesOf_append, hquiet, List.nil_append, Proc.effects_bind_ok hwrite,
                messagesOf_append, writeToRemote]
              split <;> rfl

theorem result_tellReady (endpoint : Endpoint) (localId : Option ResourceId) :
    (tellReady endpoint localId).result = .ok () := by
  cases localId <;> rfl

theorem result_tellFailed (endpoint : Endpoint) (localId : Option ResourceId) :
    (tellFailed endpoint localId).result = .ok () := by
  cases localId <;> rfl

/-- How the front of a poll event can fail to return. -/
theorem whenReady_halts {id : ResourceId} {env : PendingEnv} {x : Halt}
    (h : (d.whenReady id env).result = .error x) :
    ∃ r, d.remote id = some r ∧ r.properties.ready = false ∧
      Remote.pending r.resource env = .error x := by
  rw [whenReady] at h
  cases hr : d.remote id with
  | none =>
      rw [hr] at h
      cases h
  | some r =>
      rw [hr] at h
      refine ⟨r, rfl, ?_⟩
      rcases Proc.result_bind_eq_error h with h | ⟨out, -, h⟩
      · rw [resolveUnlessReady] at h
        split at h
        · cases h
        · rename_i hready
          refine ⟨Bool.eq_false_iff.2 hready, ?_⟩
          rcases Proc.result_bind_eq_error h with h | ⟨⟨status, resource⟩, -, h⟩
          · exact h
          · cases status with
            | ready =>
                rw [Proc.result_bind_ok (result_tellReady _ _)] at h
                cases h
            | incomplete => cases h
            | disconnected =>
                rw [Proc.result_bind_ok (result_tellFailed _ _)] at h
                cases h
      · cases h

/-- **How a poll event of a remote can fail to return**: by `pending`, or by `receive`. -/
theorem processRead_halts {id : ResourceId} {env : PendingEnv} {reads : List ReadEnv}
    {accepts : List AcceptEnv} {x : Halt} (hid : id.resourceType = .remote)
    (h : (d.processRead id env reads accepts).result = .error x) :
    ∃ r, d.remote id = some r ∧
      (r.properties.ready = false ∧ Remote.pending r.resource env = .error x ∨
        ∃ r', Resolves env r r' true ∧ r'.properties.ready = true ∧
          (Remote.receive r'.resource reads).result = .error x) := by
  rw [processRead, hid] at h
  rcases Proc.result_bind_eq_error h with h | ⟨⟨d₁, out⟩, hready, h⟩
  · obtain ⟨r, hr, hhalt⟩ := whenReady_halts h
    exact ⟨r, hr, .inl hhalt⟩
  · cases hr : d.remote id with
    | none =>
        rw [whenReady, hr] at hready
        cases hready
        cases h
    | some r =>
        obtain ⟨r', there, hresolves, hbecomes, hout⟩ := whenReady_cases hr hready
        refine ⟨r, rfl, .inr ?_⟩
        cases hr' : r'.properties.ready with
        | false =>
            rw [hr', if_neg Bool.false_ne_true] at hout
            subst hout
            cases h
        | true =>
            rw [hr', if_pos rfl] at hout
            subst hout
            obtain rfl := hresolves.there hr'
            refine ⟨r', hresolves, hr', ?_⟩
            rcases Proc.result_bind_eq_error h with h | ⟨⟨status, resource⟩, -, h⟩
            · exact h
            · cases status with
              | waitNextEvent => cases h
              | disconnected =>
                  simp only [afterReceive] at h
                  split at h <;> cases h

theorem processWrite_halts {id : ResourceId} {env : PendingEnv} {x : Halt}
    (h : (d.processWrite id env).result = .error x) :
    ∃ r, d.remote id = some r ∧ r.properties.ready = false ∧
      Remote.pending r.resource env = .error x := by
  rw [processWrite] at h
  cases hid : id.resourceType with
  | «local» =>
      rw [hid] at h
      cases h
  | remote =>
      rw [hid] at h
      rcases Proc.result_bind_eq_error h with h | ⟨⟨d₁, out⟩, -, h⟩
      · exact whenReady_halts h
      · cases out with
        | none => cases h
        | some pair =>
            simp only [writeToRemote] at h
            split at h <;> cases h

theorem noMessage_processSend (d : Driver R L) (endpoint : Endpoint) (data : Bytes)
    (env : SendEnv) :
    (d.processSend endpoint data env).Satisfies Effect.NoMessage (fun _ ↦ True) (fun _ ↦ True) := by
  rw [processSend]
  cases endpoint.resourceId.resourceType with
  | remote =>
      cases d.remote endpoint.resourceId with
      | none => exact .of_pure trivial
      | some r =>
          simp only
          split
          · exact ((Proc.Satisfies.top _).mapEffects fun _ _ _ ↦ rfl).bind fun _ _ ↦
              .of_pure trivial
          · exact .of_pure trivial
  | «local» =>
      cases d.listener endpoint.resourceId with
      | none => exact .of_pure trivial
      | some l =>
          exact Proc.Satisfies.bind (Q := fun _ ↦ True)
            (.of_ofExcept (fun _ _ ↦ trivial) fun _ _ ↦ trivial) fun _ _ ↦ .of_pure trivial

/-- How a send can fail to return. -/
theorem processSend_halts {endpoint : Endpoint} {data : Bytes} {env : SendEnv} {x : Halt}
    (h : (d.processSend endpoint data env).result = .error x) :
    (∃ r, d.remote endpoint.resourceId = some r ∧ r.properties.ready = true ∧
      (Remote.send r.resource data env).result = .error x) ∨
        endpoint.resourceId.resourceType = .local ∧
          ∃ l : Register L Unit, Local.sendTo l.resource endpoint.addr data = .error x := by
  rw [processSend] at h
  cases htype : endpoint.resourceId.resourceType with
  | remote =>
      cases hr : d.remote endpoint.resourceId with
      | none =>
          simp only [htype, hr] at h
          cases h
      | some r =>
          cases hready : r.properties.ready with
          | false =>
              simp only [htype, hr, hready] at h
              cases h
          | true =>
              simp only [htype, hr, hready, if_true] at h
              left
              refine ⟨r, rfl, hready, ?_⟩
              cases hsend : (Remote.send r.resource data env).result with
              | ok status =>
                  have hmap : ((Remote.send r.resource data env).mapEffects Effect.write).result =
                      .ok status := hsend
                  rw [Proc.result_bind_ok hmap] at h
                  cases h
              | error y =>
                  have hmap : ((Remote.send r.resource data env).mapEffects Effect.write).result =
                      .error y := hsend
                  rw [Proc.result_bind_error hmap] at h
                  cases h
                  rfl
  | «local» =>
      cases hl : d.listener endpoint.resourceId with
      | none =>
          simp only [htype, hl] at h
          cases h
      | some l =>
          simp only [htype, hl] at h
          right
          refine ⟨rfl, l, ?_⟩
          cases hsend : Local.sendTo l.resource endpoint.addr data with
          | ok status =>
              rw [hsend] at h
              cases h
          | error y =>
              rw [hsend] at h
              cases h
              rfl

/-- No other call tells of a message. -/
theorem noMessage_call (d : Driver R L) {c : Call} (hc : c.polls = none) (id : ResourceId) :
    messagesOf id (d.call c).effects = [] := by
  have hresult : ∀ {α : Type} (x : Except Halt α), (Proc.ofExcept x : Action α).Satisfies
      Effect.NoMessage (fun _ ↦ True) (fun _ ↦ True) :=
    fun _ ↦ .of_ofExcept (fun _ _ ↦ trivial) fun _ _ ↦ trivial
  have hspec : (d.call c).Satisfies Effect.NoMessage (fun _ ↦ True) (fun _ ↦ True) := by
    cases c with
    | read id env reads accepts => cases hc
    | write id env => cases hc
    | acceptRegisterRemote localPair remotePair stream payload env =>
        exact (hresult _).bind fun _ _ ↦ hresult _
    | connectRegisterRemote localAddr remotePair stream payload cb env =>
        exact (hresult _).bind fun _ _ ↦ (hresult _).bind fun _ _ ↦
          .effect_bind (fun _ ↦ rfl) (.of_pure trivial)
    | listen config localId addr cb env =>
        refine (hresult _).bind fun ret _ ↦ ?_
        cases ret with
        | error err => exact .effect_bind (fun _ ↦ rfl) (.of_pure trivial)
        | ok l =>
            exact (hresult _).bind fun _ _ ↦ .effect_bind (fun _ ↦ rfl) (.of_pure trivial)
    | connect config remoteId raddr cb env =>
        refine Proc.Satisfies.bind (Q := fun _ ↦ True) ?_ fun _ _ ↦ .of_pure trivial
        refine (hresult _).bind fun ret _ ↦ ?_
        cases ret with
        | error err => exact .of_pure trivial
        | ok info => exact .of_effect (fun _ ↦ rfl) trivial
    | send endpoint data env =>
        exact (noMessage_processSend d endpoint data env).bind fun _ _ ↦ .of_pure trivial
    | close id => exact .of_pure trivial
    | isReady id cb => exact .effect_bind (fun _ ↦ rfl) (.of_pure trivial)
  exact messagesOf_eq_nil id hspec.effects

/-- **Every call is one of these.** -/
theorem call_done {c : Call} (h : (d.call c).result = .ok d') :
    CallDone d c (d.call c).effects d' := by
  cases c with
  | read id env reads accepts => exact processRead_done h
  | write id env => exact processWrite_done h
  | acceptRegisterRemote localPair remotePair stream payload env =>
      have hquiet := fun id' ↦ noMessage_call d (c := .acceptRegisterRemote localPair remotePair
        stream payload env) rfl id'
      obtain ⟨resource, hmade, h⟩ := Proc.result_bind_eq_ok h
      obtain ⟨hself, hothers⟩ := remote_registerRemote h
      exact .registers rfl hmade ⟨hself, hothers⟩ hquiet
  | connectRegisterRemote localAddr remotePair stream payload cb env =>
      have hquiet := fun id' ↦ noMessage_call d (c := .connectRegisterRemote localAddr remotePair
        stream payload cb env) rfl id'
      obtain ⟨resource, hmade, h⟩ := Proc.result_bind_eq_ok h
      obtain ⟨d₁, hd₁, h⟩ := Proc.result_bind_eq_ok h
      obtain ⟨_, -, h⟩ := Proc.result_bind_eq_ok h
      cases h
      obtain ⟨hself, hothers⟩ := remote_registerRemote hd₁
      exact .registers rfl hmade ⟨hself, hothers⟩ hquiet
  | listen config localId addr cb env =>
      refine .same (fun id ↦ ?_) (fun id' _ ↦ noMessage_call d rfl id') (by rintro _ ⟨⟩)
      obtain ⟨ret, -, h⟩ := Proc.result_bind_eq_ok h
      cases ret with
      | error err =>
          obtain ⟨_, -, h⟩ := Proc.result_bind_eq_ok h
          cases h
          rfl
      | ok l =>
          obtain ⟨d₁, hd₁, h⟩ := Proc.result_bind_eq_ok h
          obtain ⟨_, -, h⟩ := Proc.result_bind_eq_ok h
          cases h
          exact remote_registerLocal hd₁ id
  | connect config remoteId raddr cb env =>
      refine .same (fun id ↦ ?_) (fun id' _ ↦ noMessage_call d rfl id') (by rintro _ ⟨⟩)
      obtain ⟨_, -, h⟩ := Proc.result_bind_eq_ok h
      cases h
      rfl
  | send endpoint data env =>
      refine .same (fun id ↦ ?_) (fun id' _ ↦ noMessage_call d rfl id') (by rintro _ ⟨⟩)
      obtain ⟨_, -, h⟩ := Proc.result_bind_eq_ok h
      cases h
      rfl
  | close id =>
      cases h
      rw [processClose]
      cases id.resourceType with
      | «local» => exact .same (fun _ ↦ rfl) (fun _ _ ↦ rfl) (by rintro _ ⟨⟩)
      | remote =>
          cases hr : d.remote id with
          | some r => exact .close hr (becomes_deregisterRemote id d r)
          | none =>
              refine .same (fun id' ↦ ?_) (fun _ _ ↦ rfl) (by rintro _ ⟨⟩)
              by_cases hid : id' = id
              · subst hid
                exact (remote_deregisterRemote_self d id').trans hr.symm
              · exact remote_deregisterRemote_of_ne hid
  | isReady id cb =>
      obtain ⟨_, -, h'⟩ := Proc.result_bind_eq_ok h
      cases h'
      exact .same (fun _ ↦ rfl) (fun _ _ ↦ rfl) (by rintro _ ⟨⟩)

/-- **A register that a call drops**, as it is in the end. -/
inductive Drops (d : Driver R L) : Call → Register R RemoteProperties → Prop
  | read {id : ResourceId} {env : PendingEnv} {reads : List ReadEnv} {accepts : List AcceptEnv}
      {r r' : Register R RemoteProperties} {data : List Bytes} (hr : d.remote id = some r)
      (hreads : Reads env reads r data r' false) : Drops d (.read id env reads accepts) r'
  | write {id : ResourceId} {env : PendingEnv} {r r' : Register R RemoteProperties}
      (hr : d.remote id = some r) (hresolves : Resolves env r r' false) : Drops d (.write id env) r'
  | close {id : ResourceId} {r : Register R RemoteProperties} (hr : d.remote id = some r) :
      Drops d (.close id) r
  | replaced {c : Call} {endpoint : Endpoint} {localId : Option ResourceId}
      {r : Register R RemoteProperties} (hc : c.registers = some (endpoint, localId))
      (hr : d.remote endpoint.resourceId = some r) : Drops d c r

/-- A remote that is gone after a call has been dropped by it. -/
theorem drops_of_gone {c : Call} {id : ResourceId} (h : (d.call c).result = .ok d')
    (hsome : (d.remote id).isSome) (hnone : d'.remote id = none) : ∃ r, Drops d c r := by
  have hself : ∀ {id' r' there}, Becomes id' d d' r' there → there = false := by
    intro id' r' there hbecomes
    by_cases hid : id = id'
    · subst hid
      rw [hbecomes.self] at hnone
      cases there with
      | false => rfl
      | true => cases hnone
    · rw [hbecomes.others id hid] at hnone
      rw [hnone] at hsome
      cases hsome
  cases call_done h with
  | read hr hreads hbecomes =>
      obtain rfl := hself hbecomes
      exact ⟨_, .read hr hreads⟩
  | write hr hresolves hbecomes =>
      obtain rfl := hself hbecomes
      exact ⟨_, .write hr hresolves⟩
  | close hr hbecomes => exact ⟨_, .close hr⟩
  | registers hc hmade hbecomes => cases hself hbecomes
  | same hsame =>
      rw [hsame id] at hnone
      rw [hnone] at hsome
      cases hsome

/-! ## Runs -/

/-- A call that returns is a step of the driver. -/
def step (d : Driver R L) (c : Call) : Option (Driver R L) := (d.call c).result.toOption

theorem step_eq_some {c : Call} : d.step c = some d' ↔ (d.call c).result = .ok d' := by
  rw [step]
  cases (d.call c).result with
  | ok d₁ => exact ⟨fun h ↦ congrArg _ (Option.some.inj h), fun h ↦ congrArg _ (Except.ok.inj h)⟩
  | error x => exact ⟨nofun, nofun⟩

/-- What the calls of a driver keep of every register. -/
structure Keeps (ok : Driver R L → Call → Prop) (K : Register R RemoteProperties → Prop) :
    Prop where
  reads : ∀ {d : Driver R L} {id env reads accepts r data r'}, ok d (.read id env reads accepts) →
    d.remote id = some r → K r → Reads env reads r data r' true → K r'
  writes : ∀ {d : Driver R L} {id env r r'}, ok d (.write id env) → d.remote id = some r → K r →
    Resolves env r r' true → K r'
  made : ∀ {c resource} {addr : SocketAddr} {localId : Option ResourceId}, Made L c resource →
    K ⟨resource, .new addr localId⟩

/-- **What is kept of every register holds of all remotes in every run.** -/
theorem Keeps.invariant {ok : Driver R L → Call → Prop} {K : Register R RemoteProperties → Prop}
    (hkeeps : Keeps ok K) (h : Transition.Reach step ok new d) :
    ∀ id r, d.remote id = some r → K r := by
  refine h.invariant (P := fun d : Driver R L ↦ ∀ id r, d.remote id = some r → K r) ?_ ?_
  · intro id r hr
    cases hr
  intro d d' c hd hok hs id r hr
  have hchanged : ∀ {id' r' there}, Becomes id' d d' r' there → (there = true → K r') → K r := by
    intro id' r' there hbecomes hr'
    by_cases hid : id = id'
    · subst hid
      rw [hbecomes.self] at hr
      cases there with
      | false => cases hr
      | true =>
          cases hr
          exact hr' rfl
    · rw [hbecomes.others id hid] at hr
      exact hd id r hr
  cases call_done (step_eq_some.1 hs) with
  | read hr₀ hreads hbecomes =>
      refine hchanged hbecomes fun hthere ↦ ?_
      subst hthere
      exact hkeeps.reads hok hr₀ (hd _ _ hr₀) hreads
  | write hr₀ hresolves hbecomes =>
      refine hchanged hbecomes fun hthere ↦ ?_
      subst hthere
      exact hkeeps.writes hok hr₀ (hd _ _ hr₀) hresolves
  | close hr₀ hbecomes => exact hchanged hbecomes nofun
  | registers hc hmade hbecomes => exact hchanged hbecomes fun _ ↦ hkeeps.made hmade
  | same hsame =>
      rw [hsame id] at hr
      exact hd id r hr

end Adapter

end Driver

end MessageIo
