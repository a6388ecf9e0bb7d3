import MessageIo.Protocol.Reading

/-!
# Which frames are accepted

The rules of the protocol, as they stand in the comments of `read_message_frame`, are a grammar of
sequences of frames: `Accepts` says which frames may come, which messages they make and what is
unfinished after them.  A connection that is active accepts exactly these
(`receives_exactly`).
-/

namespace MessageIo

namespace Ws

/-! ## The grammar -/

/-- **The rules for one frame** that `read_message_frame` quotes. -/
structure Frame.Proper (role : Role) (acceptUnmaskedFrames : Bool) (f : Frame) : Prop where
  reserved : ¬ (f.header.rsv1 ∨ f.header.rsv2 ∨ f.header.rsv3)
  server : role = .server → f.isMasked ∨ acceptUnmaskedFrames
  client : role = .client → ¬ f.isMasked
  control : ∀ c, f.header.opcode = .control c → f.header.isFinal ∧ f.payload.length ≤ 125

/-- The rules for one frame, with those that no comment quotes. -/
structure Frame.Admissible (role : Role) (acceptUnmaskedFrames : Bool) (f : Frame) : Prop
    extends f.Proper role acceptUnmaskedFrames where
  defined : f.header.opcode.isDefined
  /-- A code of close takes two bytes. -/
  close : f.isClose → f.payload.length ≠ 1

/-- What has been received of a message that is not finished. -/
abbrev Pending := Option (IncompleteMessageType × Bytes)

/-- A data frame begins a message, or goes on with the one that is not finished. -/
inductive Continues : Data → Pending → IncompleteMessageType → Bytes → Prop
  | text : Continues .text none .text []
  | binary : Continues .binary none .binary []
  | «continue» {type : IncompleteMessageType} {b : Bytes} :
      Continues .«continue» (some (type, b)) type b

/-- **A data frame is joined** to what has been received. -/
inductive Joins (limit : Nat) (pending : Pending) (d : Data) (data : Bytes) :
    Bool → Option Message → Pending → Prop
  | fragment {type : IncompleteMessageType} {b : Bytes} (h : Continues d pending type b)
      (hmay : MayCollect type limit (b ++ data)) :
      Joins limit pending d data false none (some (type, b ++ data))
  | message {type : IncompleteMessageType} {b : Bytes} {m : Message}
      (h : Continues d pending type b) (hmay : MayCollect type limit (b ++ data))
      (hspells : Spells type (b ++ data) m) : Joins limit pending d data true (some m) none

/-- What is joined is text or binary, or goes on with it. -/
theorem Joins.defined {limit : Nat} {pending pending' : Pending} {d : Data} {data : Bytes}
    {isFinal : Bool} {message : Option Message}
    (h : Joins limit pending d data isFinal message pending') : (OpCode.data d).isDefined := by
  have hcontinues : ∀ {type b}, Continues d pending type b → (OpCode.data d).isDefined := by
    intro type b h
    cases h with
    | text => rfl
    | binary => rfl
    | «continue» => rfl
  cases h with
  | fragment h _ => exact hcontinues h
  | message h _ _ => exact hcontinues h

/-- **A frame, and the message that it brings.** -/
inductive Brings (limit : Nat) (pending : Pending) (f : Frame) : Option Message → Pending → Prop
  | ping (h : f.header.opcode = .control .ping) :
      Brings limit pending f (some (.ping f.applyMask.payload)) pending
  | pong (h : f.header.opcode = .control .pong) :
      Brings limit pending f (some (.pong f.applyMask.payload)) pending
  | close {close : Option CloseFrame} (h : f.header.opcode = .control .close)
      (hclose : f.applyMask.intoClose = .ok close) :
      Brings limit pending f (some (.close (close.map .checked))) pending
  | data {d : Data} {out : Option Message} {pending' : Pending} (h : f.header.opcode = .data d)
      (hjoins : Joins limit pending d f.applyMask.payload f.header.isFinal out pending') :
      Brings limit pending f out pending'

/-- **The sequences of frames that are allowed**, with the messages that they make and what is
unfinished after them. -/
inductive Accepts (role : Role) (config : WebSocketConfig) :
    List Frame → List Message → Pending → Prop
  | nil : Accepts role config [] [] none
  | snoc {frames : List Frame} {messages : List Message} {pending pending' : Pending} {f : Frame}
      {out : Option Message} (h : Accepts role config frames messages pending)
      (hf : f.Admissible role config.acceptUnmaskedFrames)
      (hout : Brings (config.maxMessageSize.getD usizeMax) pending f out pending') :
      Accepts role config (frames ++ [f]) (messages ++ out.toList) pending'

/-! ## One frame -/

/-- The code keeps what is unfinished. -/
inductive Keeps : Option IncompleteMessage → Pending → Prop
  | none : Keeps Option.none Option.none
  | some {m : IncompleteMessage} {type : IncompleteMessageType} {b : Bytes}
      (h : m.Collects type b) : Keeps (Option.some m) (Option.some (type, b))

theorem Keeps.isNone {incomplete : Option IncompleteMessage} {pending : Pending}
    (h : Keeps incomplete pending) : incomplete.isNone = pending.isNone := by
  cases h with
  | none => rfl
  | some => rfl

namespace WebSocket

variable {u : Utf8Crate} {w w' w₁ w₂ : WebSocket} {f : Frame} {pending : Pending}

/-- A fragment is collected, and the message with it if it is the last one. -/
theorem joins_of_extend (hu : u.Lawful) {m : IncompleteMessage} {type : IncompleteMessageType}
    {b : Bytes} {d : Data} (hm : m.Collects type b) (hcontinues : Continues d pending type b)
    (hunique : ∀ {type' b'}, Continues d pending type' b' → type' = type ∧ b' = b)
    (limit : Option Nat) (data : Bytes) (isFinal : Bool)
    (kept : IncompleteMessage → Option IncompleteMessage)
    {out : Except Error (Option Message) × Option IncompleteMessage}
    (hout : out = match m.extend u data limit with
      | (.error e, m) => (.error e, kept m)
      | (.ok (), m) => if isFinal then (m.complete.map some, none) else (.ok none, some m)) :
    (∃ message pending', out.1 = .ok message ∧
        Joins (limit.getD usizeMax) pending d data isFinal message pending' ∧
        Keeps out.2 pending') ∨
      (∃ e, out.1 = .error e) ∧ ∀ message pending',
        ¬ Joins (limit.getD usizeMax) pending d data isFinal message pending' := by
  rcases IncompleteMessage.extend_spec hu hm data limit with
    ⟨m', hextend, hm', hmay⟩ | ⟨⟨e, herror⟩, hmay⟩
  · rw [hextend] at hout
    cases isFinal with
    | false =>
        subst hout
        exact .inl ⟨_, _, rfl, .fragment hcontinues hmay, .some hm'⟩
    | true =>
        rcases IncompleteMessage.complete_spec hm' with
          ⟨message, hcomplete, hspells⟩ | ⟨⟨e, he⟩, hno⟩
        · simp only [hcomplete] at hout
          subst hout
          exact .inl ⟨_, _, rfl, .message hcontinues hmay hspells, .none⟩
        · simp only [he] at hout
          subst hout
          refine .inr ⟨⟨e, rfl⟩, ?_⟩
          intro message pending' hjoins
          cases hjoins with
          | message h _ hspells =>
              obtain ⟨rfl, rfl⟩ := hunique h
              exact hno _ hspells
  · refine .inr ⟨⟨e, ?_⟩, ?_⟩
    · generalize m.extend u data limit = r at herror hout
      obtain ⟨r, m'⟩ := r
      cases herror
      rw [hout]
    · intro message pending' hjoins
      cases hjoins with
      | fragment h hmay' =>
          obtain ⟨rfl, rfl⟩ := hunique h
          exact hmay hmay'
      | message h hmay' _ =>
          obtain ⟨rfl, rfl⟩ := hunique h
          exact hmay hmay'

/-- A data frame that continues nothing is not joined. -/
theorem not_joins {limit : Nat} {d : Data} {data : Bytes} {isFinal : Bool}
    (h : ∀ type b, ¬ Continues d pending type b) (message : Option Message) (pending' : Pending) :
    ¬ Joins limit pending d data isFinal message pending' := by
  intro hjoins
  cases hjoins with
  | fragment hcontinues _ => exact h _ _ hcontinues
  | message hcontinues _ _ => exact h _ _ hcontinues

/-- **A data frame is dealt with** exactly if it can be joined to what has been received. -/
theorem dataFrame_spec (hu : u.Lawful) {incomplete : Option IncompleteMessage}
    (h : Keeps incomplete pending) (limit : Option Nat) (d : Data) (f : Frame) :
    (∃ message pending', (dataFrame u limit incomplete d f).1 = .ok message ∧
        Joins (limit.getD usizeMax) pending d f.payload f.header.isFinal message pending' ∧
        Keeps (dataFrame u limit incomplete d f).2 pending') ∨
      (∃ e, (dataFrame u limit incomplete d f).1 = .error e) ∧ ∀ message pending',
        ¬ Joins (limit.getD usizeMax) pending d f.payload f.header.isFinal message pending' := by
  cases h with
  | none =>
      cases d with
      | «continue» => exact .inr ⟨⟨_, rfl⟩, not_joins nofun⟩
      | text =>
          refine joins_of_extend hu (IncompleteMessage.collects_new .text) .text ?_ limit _ _
            (fun _ ↦ none) rfl
          rintro _ _ ⟨⟩
          exact ⟨rfl, rfl⟩
      | binary =>
          refine joins_of_extend hu (IncompleteMessage.collects_new .binary) .binary ?_ limit _ _
            (fun _ ↦ none) rfl
          rintro _ _ ⟨⟩
          exact ⟨rfl, rfl⟩
      | reserved i => exact .inr ⟨⟨_, rfl⟩, not_joins nofun⟩
  | some hm =>
      cases d with
      | «continue» =>
          refine joins_of_extend hu hm .«continue» ?_ limit _ _ some rfl
          rintro _ _ ⟨⟩
          exact ⟨rfl, rfl⟩
      | text => exact .inr ⟨⟨_, rfl⟩, not_joins nofun⟩
      | binary => exact .inr ⟨⟨_, rfl⟩, not_joins nofun⟩
      | reserved i => exact .inr ⟨⟨_, rfl⟩, not_joins nofun⟩

@[simp] theorem header_applyMask (f : Frame) :
    f.applyMask.header.opcode = f.header.opcode ∧
      f.applyMask.header.isFinal = f.header.isFinal := by
  rw [Frame.applyMask]
  split
  · exact ⟨rfl, rfl⟩
  · exact ⟨rfl, rfl⟩

/-- The mask is taken off exactly if there is one where there is to be one. -/
theorem unmask_spec (role : Role) (accept : Bool) (f : Frame) :
    (unmask role accept f = .ok f.applyMask ∧ (role = .server → f.isMasked ∨ accept) ∧
        (role = .client → ¬ f.isMasked)) ∨
      (∃ e, unmask role accept f = .error e) ∧
        ¬ ((role = .server → f.isMasked ∨ accept) ∧ (role = .client → ¬ f.isMasked)) := by
  have hbare : f.isMasked = false → f.applyMask = f := by
    intro hmask
    rw [Frame.isMasked] at hmask
    rw [Frame.applyMask]
    cases hnone : f.header.mask with
    | none => rfl
    | some mask =>
        rw [hnone] at hmask
        cases hmask
  cases role with
  | server =>
      cases hmask : f.isMasked with
      | true => exact .inl ⟨by rw [unmask, if_pos hmask], fun _ ↦ .inl rfl, by rintro ⟨⟩⟩
      | false =>
          cases accept with
          | true =>
              refine .inl ⟨?_, fun _ ↦ .inr rfl, by rintro ⟨⟩⟩
              rw [hbare hmask, unmask, hmask]
              rfl
          | false =>
              refine .inr ⟨⟨.protocol .unmaskedFrameFromClient, ?_⟩, ?_⟩
              · rw [unmask, hmask]
                rfl
              · rintro ⟨hserver, -⟩
                rcases hserver rfl with h | h
                · cases h
                · cases h
  | client =>
      cases hmask : f.isMasked with
      | true =>
          refine .inr ⟨⟨.protocol .maskedFrameFromServer, ?_⟩, ?_⟩
          · rw [unmask, hmask]
            rfl
          · exact fun h ↦ h.2 rfl rfl
      | false =>
          refine .inl ⟨?_, by rintro ⟨⟩, fun _ ↦ Bool.false_ne_true⟩
          rw [hbare hmask, unmask, hmask]
          rfl

/-- A Close frame has a command, or nothing, but not one byte. -/
theorem intoClose_spec (f : Frame) :
    (∃ close, f.applyMask.intoClose = .ok close ∧ f.payload.length ≠ 1) ∨
      (∃ e, f.applyMask.intoClose = .error e) ∧ f.payload.length = 1 := by
  rw [← f.length_payload_applyMask, Frame.intoClose]
  split
  · rename_i hnil
    refine .inl ⟨_, rfl, ?_⟩
    rw [hnil]
    rintro ⟨⟩
  · rename_i hone
    exact .inr ⟨⟨_, rfl⟩, by rw [hone]; rfl⟩
  · rename_i hmore
    refine .inl ⟨_, rfl, ?_⟩
    rw [hmore]
    exact Nat.succ_succ_ne_one _

/-- **A control frame is dealt with** exactly if it is in one piece, is not too big and has a
meaning. -/
theorem controlFrame_spec (h : w.context.state = .active) {ctl : Control}
    (hf : f.header.opcode = .control ctl) (limit : Nat) (pending : Pending) :
    (∃ message w', (controlFrame ctl f.applyMask).attempt w = (.ok message, w') ∧ SameReader w w' ∧
        (f.header.isFinal ∧ f.payload.length ≤ 125) ∧ f.header.opcode.isDefined ∧
        (f.isClose → f.payload.length ≠ 1) ∧ Brings limit pending f message pending) ∨
      (∃ e, ((controlFrame ctl f.applyMask).attempt w).1 = .error e) ∧
        ¬ ((f.header.isFinal ∧ f.payload.length ≤ 125) ∧ f.header.opcode.isDefined ∧
          (f.isClose → f.payload.length ≠ 1)) := by
  have hfinal := (header_applyMask f).2
  have hlength := f.length_payload_applyMask
  rw [controlFrame.eq_def, hfinal, hlength]
  by_cases hf₁ : f.header.isFinal
  · by_cases hf₂ : 125 < f.payload.length
    · rw [if_neg (not_not_intro hf₁), if_pos hf₂]
      refine .inr ⟨⟨_, rfl⟩, ?_⟩
      rintro ⟨⟨-, hle⟩, -⟩
      omega
    · rw [if_neg (not_not_intro hf₁), if_neg hf₂]
      have hcontrol : f.header.isFinal ∧ f.payload.length ≤ 125 := ⟨hf₁, Nat.le_of_not_lt hf₂⟩
      have hopen : ctl ≠ .close → f.isClose → f.payload.length ≠ 1 := by
        intro hctl hclose
        rw [Frame.isClose, hf] at hclose
        exact absurd (OpCode.control.inj (of_decide_eq_true hclose)) hctl
      cases ctl with
      | close =>
          rcases intoClose_spec f with ⟨close, hclose, hne⟩ | ⟨⟨e, herror⟩, hone⟩
          · obtain ⟨w', hdo, hsame⟩ := doClose_active h close
            refine .inl ⟨some (.close (close.map .checked)), w', ?_, hsame, hcontrol, ?_,
              fun _ ↦ hne, .close hf hclose⟩
            · show EStateM.attempt (EStateM.ofExcept f.applyMask.intoClose >>= fun close ↦
                doClose close >>= fun reply ↦ Pure.pure (reply.map Message.close)) w = _
              rw [hclose]
              exact EStateM.attempt_bind_ok hdo
            · rw [hf]
              rfl
          · refine .inr ⟨⟨e, ?_⟩, ?_⟩
            · show (EStateM.attempt (EStateM.ofExcept f.applyMask.intoClose >>= fun close ↦
                doClose close >>= fun reply ↦ Pure.pure (reply.map Message.close)) w).1 = _
              rw [herror]
              rfl
            · rintro ⟨-, -, hne⟩
              exact hne (decide_eq_true hf) hone
      | reserved i =>
          refine .inr ⟨⟨_, rfl⟩, ?_⟩
          rintro ⟨-, hdefined, -⟩
          rw [hf] at hdefined
          cases hdefined
      | ping =>
          refine .inl ⟨some (.ping f.applyMask.payload),
            w.answeredBy (.pong f.applyMask.payload), ?_, .answeredBy _ w, hcontrol, ?_, ?_,
            .ping hf⟩
          · show EStateM.attempt (if w.context.state.isActive = true then
              setAdditional (.pong f.applyMask.payload) true >>= fun _ ↦
                Pure.pure (some (Message.ping f.applyMask.payload)) else _) w = _
            have hactive : w.context.state.isActive = true := by
              rw [h]
              rfl
            rw [if_pos hactive]
            exact EStateM.attempt_bind_ok (attempt_setAdditional _ _ _)
          · rw [hf]
            rfl
          · exact hopen (by rintro ⟨⟩)
      | pong =>
          refine .inl ⟨some (.pong f.applyMask.payload), w, rfl, ⟨rfl, rfl, rfl⟩, hcontrol, ?_, ?_,
            .pong hf⟩
          · rw [hf]
            rfl
          · exact hopen (by rintro ⟨⟩)
  · rw [if_pos hf₁]
    exact .inr ⟨⟨_, rfl⟩, fun h ↦ hf₁ h.1.1⟩

/-- **A frame is dealt with** exactly if it is allowed. -/
theorem processFrame_spec (hu : u.Lawful) (h : w.context.state = .active)
    (hkeeps : Keeps w.context.incomplete pending) (f : Frame) :
    (∃ message pending' w', (processFrame u f).attempt w = (.ok message, w') ∧
        f.Admissible w.context.role w.context.config.acceptUnmaskedFrames ∧
        Brings (w.context.config.maxMessageSize.getD usizeMax) pending f message pending' ∧
        Keeps w'.context.incomplete pending' ∧ w'.context.role = w.context.role ∧
        w'.context.config = w.context.config) ∨
      (∃ e, ((processFrame u f).attempt w).1 = .error e) ∧
        ∀ message pending', f.Admissible w.context.role w.context.config.acceptUnmaskedFrames →
          ¬ Brings (w.context.config.maxMessageSize.getD usizeMax) pending f message pending' := by
  have hread : w.context.state.canRead = true := by
    rw [h]
    rfl
  by_cases hreserved : f.header.rsv1 ∨ f.header.rsv2 ∨ f.header.rsv3
  · refine .inr ⟨⟨.protocol .nonZeroReservedBits, ?_⟩, fun _ _ hf ↦ absurd hreserved hf.reserved⟩
    rw [processFrame_reserved hread hreserved]
  · rcases unmask_spec w.context.role w.context.config.acceptUnmaskedFrames f with
      ⟨hunmask, hserver, hclient⟩ | ⟨⟨e, herror⟩, hmask⟩
    · have hopcode := (header_applyMask f).1
      cases hf : f.header.opcode with
      | control ctl =>
          rw [processFrame_control hread hreserved hunmask (hopcode.trans hf)]
          rcases controlFrame_spec h hf (w.context.config.maxMessageSize.getD usizeMax) pending with
            ⟨message, w', hctl, hsame, hcontrol, hdefined, hclose, hbrings⟩ | ⟨herror, hno⟩
          · refine .inl ⟨message, pending, w', hctl,
              ⟨⟨hreserved, hserver, hclient, fun _ _ ↦ hcontrol⟩, hdefined, hclose⟩, hbrings, ?_,
              hsame.role, hsame.config⟩
            rw [hsame.incomplete]
            exact hkeeps
          · exact .inr ⟨herror, fun _ _ hadmissible _ ↦ hno
              ⟨hadmissible.control ctl hf, hadmissible.defined, hadmissible.close⟩⟩
      | data d =>
          rw [processFrame_data hread hreserved hunmask (hopcode.trans hf)]
          have hspec := dataFrame_spec hu hkeeps w.context.config.maxMessageSize d f.applyMask
          rw [(header_applyMask f).2] at hspec
          rcases hspec with ⟨message, pending', hok, hjoins, hkeeps'⟩ | ⟨⟨e, herror⟩, hno⟩
          · have hcontrol : ∀ c, f.header.opcode = .control c →
                f.header.isFinal ∧ f.payload.length ≤ 125 := by
              intro c hc
              rw [hf] at hc
              cases hc
            have hdefined : f.header.opcode.isDefined := by
              rw [hf]
              exact hjoins.defined
            have hclose : f.isClose → f.payload.length ≠ 1 := by
              intro hclose
              rw [Frame.isClose, hf] at hclose
              cases of_decide_eq_true hclose
            exact .inl ⟨message, pending', w.setIncomplete (dataFrame _ _ _ _ _).2, by rw [hok],
              ⟨⟨hreserved, hserver, hclient, hcontrol⟩, hdefined, hclose⟩, .data hf hjoins, hkeeps',
              rfl, rfl⟩
          · refine .inr ⟨⟨e, herror⟩, ?_⟩
            intro message pending' _ hbrings
            cases hbrings with
            | ping hf' => cases hf.symm.trans hf'
            | pong hf' => cases hf.symm.trans hf'
            | close hf' _ => cases hf.symm.trans hf'
            | data hf' hjoins =>
                cases hf.symm.trans hf'
                exact hno _ _ hjoins
    · rw [processFrame_error hread hreserved herror]
      exact .inr ⟨⟨e, rfl⟩, fun _ _ hf ↦ absurd ⟨hf.server, hf.client⟩ hmask⟩

end WebSocket

/-! ## Sequences of frames -/

/-- What a frame brings is determined by what there is. -/
theorem Joins.unique {limit : Nat} {pending p p' : Pending} {d : Data} {data : Bytes}
    {isFinal : Bool} {m m' : Option Message} (h : Joins limit pending d data isFinal m p)
    (h' : Joins limit pending d data isFinal m' p') : m = m' ∧ p = p' := by
  have hunique : ∀ {type type' b b'}, Continues d pending type b → Continues d pending type' b' →
      type = type' ∧ b = b' := by
    intro type type' b b' h h'
    cases h with
    | text =>
        cases h'
        exact ⟨rfl, rfl⟩
    | binary =>
        cases h'
        exact ⟨rfl, rfl⟩
    | «continue» =>
        cases h'
        exact ⟨rfl, rfl⟩
  cases h with
  | fragment hcontinues _ =>
      cases h' with
      | fragment hcontinues' _ =>
          obtain ⟨rfl, rfl⟩ := hunique hcontinues hcontinues'
          exact ⟨rfl, rfl⟩
  | message hcontinues _ hspells =>
      cases h' with
      | message hcontinues' _ hspells' =>
          obtain ⟨rfl, rfl⟩ := hunique hcontinues hcontinues'
          exact ⟨congrArg some (hspells.unique hspells'), rfl⟩

theorem Brings.unique {limit : Nat} {pending p p' : Pending} {f : Frame} {m m' : Option Message}
    (h : Brings limit pending f m p) (h' : Brings limit pending f m' p') : m = m' ∧ p = p' := by
  cases h with
  | ping hf =>
      cases h' with
      | ping _ => exact ⟨rfl, rfl⟩
      | pong hf' => cases hf.symm.trans hf'
      | close hf' _ => cases hf.symm.trans hf'
      | data hf' _ => cases hf.symm.trans hf'
  | pong hf =>
      cases h' with
      | ping hf' => cases hf.symm.trans hf'
      | pong _ => exact ⟨rfl, rfl⟩
      | close hf' _ => cases hf.symm.trans hf'
      | data hf' _ => cases hf.symm.trans hf'
  | close hf hclose =>
      cases h' with
      | ping hf' => cases hf.symm.trans hf'
      | pong hf' => cases hf.symm.trans hf'
      | close _ hclose' =>
          cases hclose.symm.trans hclose'
          exact ⟨rfl, rfl⟩
      | data hf' _ => cases hf.symm.trans hf'
  | data hf hjoins =>
      cases h' with
      | ping hf' => cases hf.symm.trans hf'
      | pong hf' => cases hf.symm.trans hf'
      | close hf' _ => cases hf.symm.trans hf'
      | data hf' hjoins' =>
          cases hf.symm.trans hf'
          exact hjoins.unique hjoins'

section Accepts

variable {role : Role} {config : WebSocketConfig} {frames : List Frame}
  {messages messages' : List Message} {pending pending' : Pending}

/-- The last frame of an allowed sequence. -/
theorem Accepts.last {f : Frame} (h : Accepts role config (frames ++ [f]) messages pending) :
    ∃ messages₁ pending₁ out, Accepts role config frames messages₁ pending₁ ∧
      f.Admissible role config.acceptUnmaskedFrames ∧
      Brings (config.maxMessageSize.getD usizeMax) pending₁ f out pending ∧
      messages = messages₁ ++ out.toList := by
  generalize hframes : frames ++ [f] = frames' at h
  cases h with
  | nil => exact absurd hframes (List.append_ne_nil_of_right_ne_nil _ (List.cons_ne_nil _ _))
  | snoc h hf hout =>
      obtain ⟨rfl, hlast⟩ := List.append_inj' hframes rfl
      cases hlast
      exact ⟨_, _, _, h, hf, hout, rfl⟩

/-- An allowed sequence makes the same messages whenever it is received. -/
theorem Accepts.unique (h : Accepts role config frames messages pending)
    (h' : Accepts role config frames messages' pending') :
    messages = messages' ∧ pending = pending' := by
  induction h generalizing messages' pending' with
  | nil =>
      generalize hframes : ([] : List Frame) = frames at h'
      cases h' with
      | nil => exact ⟨rfl, rfl⟩
      | snoc =>
          exact absurd hframes.symm (List.append_ne_nil_of_right_ne_nil _ (List.cons_ne_nil _ _))
  | @snoc frames messages pending pending₁ f out _ _ hout ih =>
      obtain ⟨messages₁, pending₁', out', haccepts, -, hout', rfl⟩ := h'.last
      obtain ⟨rfl, rfl⟩ := ih haccepts
      obtain ⟨rfl, rfl⟩ := hout.unique hout'
      exact ⟨rfl, rfl⟩

/-- Nothing is unfinished exactly if the last data frame was final. -/
theorem Accepts.isNone (h : Accepts role config frames messages pending) :
    pending.isNone = (frames.filter (·.isData)).getLast?.all (·.header.isFinal) := by
  induction h with
  | nil => rfl
  | @snoc frames messages pending pending' f out _ _ hout ih =>
      rw [List.filter_append]
      have hcontrol : ∀ c, f.header.opcode = .control c →
          frames.filter (·.isData) ++ [f].filter (·.isData) = frames.filter (·.isData) := by
        intro c hc
        have hdata : f.isData = false := by
          rw [Frame.isData, hc]
          rfl
        rw [List.filter_cons_of_neg (by rw [hdata]; exact Bool.false_ne_true), List.filter_nil,
          List.append_nil]
      cases hout with
      | ping hf => rw [hcontrol _ hf, ih]
      | pong hf => rw [hcontrol _ hf, ih]
      | close hf _ => rw [hcontrol _ hf, ih]
      | @data d _ _ hf hjoins =>
          have hdata : f.isData = true := by
            rw [Frame.isData, hf]
            rfl
          rw [List.filter_cons_of_pos hdata, List.filter_nil, List.getLast?_concat]
          show pending'.isNone = f.header.isFinal
          generalize f.header.isFinal = isFinal at hjoins
          cases hjoins with
          | fragment => rfl
          | message => rfl

end Accepts

namespace WebSocket

variable {u : Utf8Crate} {w w' w₀ : WebSocket} {frames : List Frame} {messages : List Message}

/-- **Frames are received**, one with each call of `read_message_frame`, and messages are returned.
Between two calls anything may happen that leaves alone what reading depends on. -/
inductive Receives (u : Utf8Crate) (w₀ : WebSocket) : List Frame → List Message → WebSocket → Prop
  | start : Receives u w₀ [] [] w₀
  | meanwhile {frames : List Frame} {messages : List Message} {w w' : WebSocket}
      (h : Receives u w₀ frames messages w) (hsame : SameReader w w')
      (hstate : w'.context.state = w.context.state) : Receives u w₀ frames messages w'
  | frame {frames : List Frame} {messages : List Message} {w w' : WebSocket} {f : Frame}
      {out : Option Message} (h : Receives u w₀ frames messages w)
      (hread : w.frameRead.result = .ok (some f))
      (hout : (readMessageFrame u).attempt w = (.ok out, w')) :
      Receives u w₀ (frames ++ [f]) (messages ++ out.toList) w'

/-- What is known of a connection that has received frames. -/
structure HasReceived (w₀ : WebSocket) (frames : List Frame) (messages : List Message)
    (pending : Pending) (w : WebSocket) : Prop where
  accepts : Accepts w₀.context.role w₀.context.config frames messages pending
  keeps : Keeps w.context.incomplete pending
  role : w.context.role = w₀.context.role
  config : w.context.config = w₀.context.config
  state : w.context.state = .active ∨ w.context.state.canRead = false

theorem Answered.active (h : Answered w w') (hactive : w.context.state = .active) :
    w'.context.state = .active ∨ w'.context.state.canRead = false := by
  have hanswered : ∀ (add : Frame) (w : WebSocket),
      (w.answeredBy add).context.state = w.context.state := by
    intro add w
    rw [answeredBy]
    split
    · rfl
    · rfl
  cases h with
  | nothing => exact .inl hactive
  | pong => exact .inl ((hanswered _ _).trans hactive)
  | reply => exact .inr (congrArg _ (hanswered _ (w.setState .closedByPeer)))
  | closed => exact .inr rfl
  | acknowledged => exact .inr rfl
  | terminated => exact .inr rfl

theorem Receives.hasReceived (hu : u.Lawful) (hactive : w₀.context.state = .active)
    (hnew : w₀.context.incomplete = none) (h : Receives u w₀ frames messages w) :
    ∃ pending, HasReceived w₀ frames messages pending w := by
  induction h with
  | start => exact ⟨none, .nil, by rw [hnew]; exact .none, rfl, rfl, .inl hactive⟩
  | meanwhile _ hsame hstate ih =>
      obtain ⟨pending, hreceived⟩ := ih
      refine ⟨pending, hreceived.accepts, ?_, hsame.role.trans hreceived.role,
        hsame.config.trans hreceived.config, ?_⟩
      · rw [hsame.incomplete]
        exact hreceived.keeps
      · rw [hstate]
        exact hreceived.state
  | @frame frames messages w w' f out _ hread hout ih =>
      obtain ⟨pending, hreceived⟩ := ih
      rw [readMessageFrame_frame hread] at hout
      rcases hreceived.state with hstate | hclosing
      · rcases processFrame_spec (w := w.received) hu hstate hreceived.keeps f with
          ⟨message, pending', w'', hok, hadmissible, hbrings, hkeeps, hrole, hconfig⟩ |
          ⟨⟨e, herror⟩, -⟩
        · cases hok.symm.trans hout
          have hanswered := deals_processFrame (u := u) f w.received
          rw [EStateM.Ensures, hout] at hanswered
          have hrole' : w.received.context.role = _ := hreceived.role
          have hconfig' : w.received.context.config = _ := hreceived.config
          rw [hrole', hconfig'] at hadmissible
          rw [hconfig'] at hbrings
          exact ⟨pending', .snoc hreceived.accepts hadmissible hbrings, hkeeps,
            hrole.trans hrole', hconfig.trans hconfig', hanswered.1.active hstate⟩
        · rw [hout] at herror
          cases herror
      · have herror := processFrame_closing (u := u) (w := w.received) hclosing f
        rw [hout] at herror
        cases herror

/-- **A connection that is active accepts exactly the frames that are allowed.**  What it has
received is an allowed sequence, and it has returned the messages that the sequence makes;
it keeps an incomplete message unless the last data frame was final; and the next frame is
accepted exactly if the sequence with it is allowed. -/
theorem receives_exactly (hu : u.Lawful) (hactive : w₀.context.state = .active)
    (hnew : w₀.context.incomplete = none) (h : Receives u w₀ frames messages w) :
    (∃ pending, Accepts w₀.context.role w₀.context.config frames messages pending) ∧
      w.context.incomplete.isNone =
        (frames.filter (·.isData)).getLast?.all (·.header.isFinal) ∧
      ∀ f, w.context.state = .active → w.frameRead.result = .ok (some f) →
        ((∃ out w', (readMessageFrame u).attempt w = (.ok out, w')) ↔
          ∃ messages' pending, Accepts w₀.context.role w₀.context.config (frames ++ [f]) messages'
            pending) := by
  obtain ⟨pending, hreceived⟩ := h.hasReceived hu hactive hnew
  refine ⟨⟨pending, hreceived.accepts⟩, ?_, ?_⟩
  · rw [← hreceived.accepts.isNone]
    exact hreceived.keeps.isNone
  · intro f hstate hread
    rw [readMessageFrame_frame hread]
    have hspec := processFrame_spec (w := w.received) hu hstate hreceived.keeps f
    have hrole : w.received.context.role = _ := hreceived.role
    have hconfig : w.received.context.config = _ := hreceived.config
    rw [hrole, hconfig] at hspec
    rcases hspec with ⟨message, pending', w', hok, hadmissible, hbrings, -⟩ | ⟨⟨e, herror⟩, hno⟩
    · exact ⟨fun _ ↦ ⟨_, pending', .snoc hreceived.accepts hadmissible hbrings⟩,
        fun _ ↦ ⟨message, w', hok⟩⟩
    · constructor
      · rintro ⟨out, w', hok⟩
        rw [hok] at herror
        cases herror
      · rintro ⟨messages', pending', haccepts⟩
        obtain ⟨messages₁, pending₁, out, haccepts₁, hadmissible, hbrings, -⟩ := haccepts.last
        obtain ⟨-, rfl⟩ := haccepts₁.unique hreceived.accepts
        exact absurd hbrings (hno _ _ hadmissible)

/-- A new client, whose peer has sent this. -/
def clientOf (sent : Bytes) : WebSocket := fresh .client ⟨[.ok sent], [], [], []⟩

/-- A ping between two fragments. -/
theorem receives_exactly_interleaved :
    ∃ w, Receives .reference (clientOf [0x02, 1, 7, 0x89, 0, 0x80, 1, 8])
        [⟨⟨false, false, false, false, .data .binary, none⟩, [7]⟩, .ping [],
          ⟨⟨true, false, false, false, .data .«continue», none⟩, [8]⟩]
        [.ping [], .binary [7, 8]] w ∧
      w.context.incomplete.isNone = true := by
  have h : Receives .reference (clientOf [0x02, 1, 7, 0x89, 0, 0x80, 1, 8])
      ((([] ++ [⟨⟨false, false, false, false, .data .binary, none⟩, [7]⟩]) ++ [.ping []]) ++
        [⟨⟨true, false, false, false, .data .«continue», none⟩, [8]⟩]) _ _ :=
    .frame (.frame (.frame .start rfl rfl) rfl rfl) rfl rfl
  exact ⟨_, h, (receives_exactly Utf8Crate.reference_lawful rfl rfl h).2.1⟩

/-- **A Close frame with one byte is refused**, though it keeps all the rules that are quoted. -/
theorem oneByteClose_refused :
    (clientOf [0x88, 1, 3]).frameRead.result =
        .ok (some ⟨FrameHeader.default, [3]⟩) ∧
      Frame.Proper .client false ⟨FrameHeader.default, [3]⟩ ∧
      ((readMessageFrame .reference).attempt (clientOf [0x88, 1, 3])).1 =
        .error (.protocol .invalidCloseSequence) := by
  refine ⟨rfl, ⟨by decide, nofun, fun _ ↦ by decide, ?_⟩, rfl⟩
  rintro _ ⟨⟩
  exact ⟨rfl, by decide⟩

end WebSocket

end Ws

end MessageIo
