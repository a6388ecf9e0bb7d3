import MessageIo.Protocol.Chunking
import MessageIo.Protocol.Closing
import MessageIo.Protocol.RoundTrip
import MessageIo.Protocol.Stranded

/-!
# What is said is heard

A connection that is asked for messages that are not too big, and for Close frames with a reason
that is not too long, puts out frames that say something: each carries a message, or it is the Close
frame (`Says`).  The other side understands every frame that says something
(`processFrame_spoken`), so a call of `read` hears the next one, if it is there (`ReadsOn`).

Nothing is assumed of the streams here: they take as much as they like, they give their bytes in
chunks of any size, and they fail or end at any time.
-/

namespace MessageIo

namespace Ws

/-! ## What is said -/

/-- The reason leaves room for the code in a control frame. -/
def CloseFrame.Short (c : CloseFrame) : Prop := c.reason.length ≤ 123

/-- The command that is read from the frame. -/
def CloseFrame.onWire (c : CloseFrame) : CloseFrame := ⟨.ofU16 c.code.toU16, c.reason⟩

/-- A frame as it is made: a whole one without a mask. -/
structure Frame.Bare (f : Frame) : Prop where
  isFinal : f.header.isFinal = true
  reserved : ¬ (f.header.rsv1 ∨ f.header.rsv2 ∨ f.header.rsv3)
  mask : f.header.mask = none

/-- **A frame says something**, from a side with this role. -/
inductive Says (role : Role) : Message → Frame → Prop
  | message {m : Message} {f : Frame} (h : Carries role m f) : Says role m f
  | close {c : CloseFrame} {f g : Frame} (hc : c.Short) (hf : Frame.close (some c) = some f)
      (hg : Goes role f g) : Says role (.close (some c)) g

/-- **What is heard of what is said**: a message as it is, and the command that is read from a
Close frame, or the one in its place. -/
inductive Hears : Message → Message → Prop
  | message {m : Message} (hm : ∀ c, m ≠ .close c) : Hears m m
  | close {c : CloseFrame} : Hears (.close (some c)) (.close (some c.onWire))
  | checked {c : CloseFrame} : Hears (.close (some c)) (.close (some c.onWire.checked))

/-- **What comes of a command** on its way: itself, what is read of it, or the one in its place. -/
inductive CloseFrame.Echoes (c : CloseFrame) : CloseFrame → Prop
  | same : c.Echoes c
  | onWire : c.Echoes c.onWire
  | checked : c.Echoes c.onWire.checked

/-- The messages that keep their order: a pong may be late, or be replaced by the next one. -/
def Message.ordered : Message → Bool
  | .text _ | .binary _ | .ping _ => true
  | _ => false

section Says

variable {role role' : Role} {m m' : Message} {c : CloseFrame} {f g : Frame}

theorem bare_close (hf : Frame.close (some c) = some f) : f.Bare := by
  have hno : ¬ (false = true ∨ false = true ∨ false = true) := by decide
  cases hf
  exact ⟨rfl, hno, rfl⟩

/-- The other side sees the frame behind its mask. -/
theorem Frame.Bare.onWire (hf : f.Bare) (hg : Goes role f g) :
    g.onWire.applyMask = f ∧ g.onWire.header.opcode = f.header.opcode ∧
      g.onWire.header.isFinal = true ∧
      ¬ (g.onWire.header.rsv1 ∨ g.onWire.header.rsv2 ∨ g.onWire.header.rsv3) ∧
      (g.onWire.isMasked ↔ role = .client) := by
  obtain ⟨⟨isFinal, rsv1, rsv2, rsv3, opcode, mask⟩, payload⟩ := f
  obtain ⟨hfinal, hreserved, hmask⟩ := hf
  cases hmask
  cases hg with
  | server => exact ⟨rfl, rfl, hfinal, hreserved, iff_of_false Bool.false_ne_true (by rintro ⟨⟩)⟩
  | client mask =>
      refine ⟨?_, rfl, hfinal, hreserved, iff_of_true rfl rfl⟩
      show (⟨⟨isFinal, rsv1, rsv2, rsv3, opcode, none⟩,
        Ws.applyMask (Ws.applyMask payload mask) mask⟩ : Frame) = _
      rw [applyMask_applyMask]

/-- The command of a Close frame comes out of it. -/
theorem intoClose_close (hf : Frame.close (some c) = some f) :
    f.intoClose = .ok (some c.onWire) ∧ f.payload.length = c.reason.length + 2 := by
  have hpayload : f.payload = BigEndian.encode 2 c.code.toU16.toNat ++ c.reason := by
    cases hf
    rfl
  have hdecode : BigEndian.decode (BigEndian.encode 2 c.code.toU16.toNat) = c.code.toU16.toNat :=
    BigEndian.decode_encode_of_lt c.code.toU16.toNat_lt
  obtain ⟨a, b, hcode⟩ := List.length_eq_two.1 (BigEndian.length_encode 2 c.code.toU16.toNat)
  rw [hcode] at hpayload hdecode
  rw [Frame.intoClose, hpayload]
  refine ⟨?_, rfl⟩
  simp only [List.cons_append, List.nil_append]
  rw [hdecode, UInt16.ofNat_toNat]
  rfl

/-- The command in its place is short as well. -/
theorem CloseFrame.Short.checked (hc : c.Short) : c.checked.Short := by
  rw [CloseFrame.checked]
  split
  · exact (by decide : (Utf8.encode "Protocol violation").length ≤ 123)
  · exact hc

theorem Says.passes (h : Says role m g) : g.Passes (16 <<< 20) := by
  cases h with
  | message h => exact h.passes
  | @close c f g hc hf hg =>
      have hlength := (intoClose_close hf).2
      have hpayload : g.payload = f.payload := by
        cases hg with
        | server => rfl
        | client mask => rfl
      refine ⟨?_, ?_⟩
      · rw [hg.opcode]
        cases hf
        rfl
      · have hshort : c.reason.length ≤ 123 := hc
        rw [hpayload, hlength]
        exact (Nat.add_le_add_right hshort 2).trans (by decide)

theorem CloseCode.toU16_ofU16 (code : UInt16) : (CloseCode.ofU16 code).toU16 = code := by
  have hcode : ∀ {n : Nat}, code.toNat = n → UInt16.ofNat n = code := by
    rintro _ rfl
    exact UInt16.ofNat_toNat
  rw [CloseCode.ofU16]
  split
  all_goals first
    | exact hcode ‹_›
    | split_ifs <;> rfl

theorem CloseFrame.onWire_onWire (c : CloseFrame) : c.onWire.onWire = c.onWire := by
  show (⟨.ofU16 (CloseCode.ofU16 c.code.toU16).toU16, c.reason⟩ : CloseFrame) = _
  rw [CloseCode.toU16_ofU16]
  rfl

theorem CloseFrame.checked_checked (c : CloseFrame) : c.checked.checked = c.checked := by
  by_cases hallowed : c.code.isAllowed = true
  · have hsame : c.checked = c := if_neg (not_not_intro hallowed)
    rw [hsame, hsame]
  · rw [show c.checked = ⟨.protocol, Utf8.encode "Protocol violation"⟩ from if_pos hallowed]
    rfl

theorem CloseFrame.onWire_checked (c : CloseFrame) :
    c.onWire.checked.onWire = c.onWire.checked := by
  rw [CloseFrame.checked]
  split
  · rfl
  · exact c.onWire_onWire

/-- What is heard of a command comes of it. -/
theorem Hears.echoes {c₀ : CloseFrame} (h : Hears (.close (some c)) m) (hc : c₀.Echoes c) :
    ∃ c', m = .close (some c') ∧ (c' = c₀.onWire ∨ c' = c₀.onWire.checked) := by
  cases h with
  | message hm => exact absurd rfl (hm _)
  | close =>
      refine ⟨_, rfl, ?_⟩
      cases hc with
      | same => exact .inl rfl
      | onWire => exact .inl c₀.onWire_onWire
      | checked => exact .inr c₀.onWire_checked
  | checked =>
      refine ⟨_, rfl, ?_⟩
      cases hc with
      | same => exact .inr rfl
      | onWire => exact .inr (congrArg _ c₀.onWire_onWire)
      | checked => exact .inr ((congrArg _ c₀.onWire_checked).trans c₀.onWire.checked_checked)

/-- A frame is a Close frame exactly if it says so. -/
theorem Says.isClose (h : Says role m g) : g.isClose = true ↔ ∃ c, m = .close c := by
  cases h with
  | message h =>
      obtain ⟨f, hf, hg⟩ := h
      rw [hg.isClose]
      cases hf with
      | text => exact ⟨by rintro ⟨⟩, by rintro ⟨_, ⟨⟩⟩⟩
      | binary => exact ⟨by rintro ⟨⟩, by rintro ⟨_, ⟨⟩⟩⟩
      | ping => exact ⟨by rintro ⟨⟩, by rintro ⟨_, ⟨⟩⟩⟩
      | pong => exact ⟨by rintro ⟨⟩, by rintro ⟨_, ⟨⟩⟩⟩
  | close hc hf hg =>
      rw [hg.isClose]
      exact ⟨fun _ ↦ ⟨_, rfl⟩, fun _ ↦ (WebSocket.close_spec hf).1⟩

/-- A pong keeps no order. -/
theorem Says.isPong (h : Says role m g) (hpong : g.isPong = true) : m.ordered = false := by
  cases h with
  | message h =>
      obtain ⟨f, hf, hg⟩ := h
      rw [hg.isPong] at hpong
      cases hf with
      | text => cases hpong
      | binary => cases hpong
      | ping => cases hpong
      | pong => rfl
  | close => rfl

/-- What is heard keeps its order exactly if what is said does, and is the same then. -/
theorem Hears.ordered (h : Hears m m') :
    m'.ordered = m.ordered ∧ (m.ordered = true → m' = m) := by
  cases h with
  | message => exact ⟨rfl, fun _ ↦ rfl⟩
  | close => exact ⟨rfl, by rintro ⟨⟩⟩
  | checked => exact ⟨rfl, by rintro ⟨⟩⟩

/-- What is heard is a Close exactly if it was said in a Close frame. -/
theorem Says.isClose_heard (h : Says role m f) (hhears : Hears m m') :
    f.isClose = true ↔ ∃ c, m' = .close c := by
  rw [h.isClose]
  cases hhears with
  | message => rfl
  | close => exact ⟨fun _ ↦ ⟨_, rfl⟩, fun _ ↦ ⟨_, rfl⟩⟩
  | checked => exact ⟨fun _ ↦ ⟨_, rfl⟩, fun _ ↦ ⟨_, rfl⟩⟩

end Says

/-- **Errors that blame nobody**: the stream fails or ends, the connection is closed, or there is no
room. -/
def Error.Fair : Error → Prop
  | .io _ | .connectionClosed | .alreadyClosed | .writeBufferFull _ => True
  | .protocol .sendAfterClosing | .protocol .resetWithoutClosingHandshake => True
  | _ => False

/-- The sizes that a connection accepts are those of the default configuration. -/
structure WebSocketConfig.Limits (config : WebSocketConfig) : Prop where
  message : config.maxMessageSize = some (64 <<< 20)
  frame : config.maxFrameSize = some (16 <<< 20)

/-- Bytes have been received before the first call. -/
def WebSocket.fed (data : Bytes) (w : WebSocket) : WebSocket :=
  { w with context.frame := w.context.frame.fed data }

/-- It is the `WebSocket` that is made of them. -/
theorem WebSocket.fed_fromPartiallyRead {stream : Socket} {data : Bytes} {role : Role}
    {config : Option WebSocketConfig} {w : WebSocket}
    (h : fromPartiallyRead stream [] role config = .ok w) :
    fromPartiallyRead stream data role config = .ok (w.fed data) := by
  revert h
  rw [fromPartiallyRead, fromPartiallyRead, WebSocketContext.fromPartiallyRead,
    WebSocketContext.fromPartiallyRead]
  cases (config.getD .default).assertValid with
  | error x => rintro ⟨⟩
  | ok _ =>
      rintro ⟨⟩
      rfl

/-! ## Hearing -/

namespace FrameCodec

variable {maxSize : Nat} {c : FrameCodec} {tail : Bytes} {frames : List Frame}

/-- More is said. -/
theorem Coming.append (h : c.Coming tail frames) (more : List Frame) :
    c.Coming (tail ++ more.flatMap Frame.format) (frames ++ more) := by
  cases h with
  | between h hbytes =>
      refine .between h ?_
      rw [List.flatMap_append, ← hbytes, List.append_assoc]
  | @inside f frames h hbytes =>
      refine @Coming.inside c _ f (frames ++ more) h ?_
      rw [List.flatMap_append, ← List.append_assoc, ← List.append_assoc, hbytes]

/-- Nothing is coming where nothing is left. -/
theorem Coming.eq_nil (h : c.Coming [] frames) (hheader : c.header = none)
    (hbuffer : c.inBuffer = []) : frames = [] := by
  cases h with
  | between _ hbytes =>
      rw [hbuffer] at hbytes
      cases frames with
      | nil => rfl
      | cons f frames =>
          have hlength := congrArg List.length hbytes
          rw [List.append_nil, List.flatMap_cons, List.length_append, Frame.length_format,
            List.length_nil] at hlength
          have hlen := f.two_le_len
          omega
  | inside hsome _ => cases hsome.symm.trans hheader

/-- **What reading frames that are coming ends with**, whatever the stream does: the next one, or a
reason to wait for it. -/
structure HandsOn (tail : Bytes) (frames : List Frame) (reads : List ReadCall) (out : FrameRead) :
    Prop where
  used : ∃ used, given reads = used ++ given out.reads
  result : (Waits out.result ∧ out.codec.Coming (given out.reads ++ tail) frames ∧
      (frames ≠ [] → given out.reads ++ tail ≠ [])) ∨
    ∃ f rest, frames = f :: rest ∧ out.result = .ok (some f.onWire) ∧
      out.codec.Coming (given out.reads ++ tail) rest

theorem handsOn_readLoop (hsize : maxSize < 2 ^ 64) (hframes : ∀ f ∈ frames, f.Passes maxSize)
    {reads : List ReadCall} (h : c.Coming (given reads ++ tail) frames) :
    HandsOn tail frames reads (c.readLoop maxSize reads) := by
  -- Where the codec has to wait, what it waits for is not among the frames that are there.
  have hwaits : ∀ {c c' : FrameCodec} {bytes : Bytes}, c.Coming bytes frames →
      c.nextFrame maxSize = (.ok none, c') →
        c'.Coming bytes frames ∧ (frames ≠ [] → bytes ≠ []) := by
    intro c c' bytes hcoming hnext
    rcases hcoming.next hsize hframes with ⟨d, hnone, hd, hbytes⟩ | ⟨f, rest, d, -, hsome, -⟩
    · cases hnone.symm.trans hnext
      exact ⟨hd, hbytes⟩
    · cases hsome.symm.trans hnext
  revert h
  refine readLoop_cases (P := fun c reads out ↦ c.Coming (given reads ++ tail) frames →
    HandsOn tail frames reads out) ?_ ?_ ?_ ?_ ?_ c reads
  · intro c c' r reads hnext hr hcoming
    rcases hcoming.next hsize hframes with ⟨d, hnone, -⟩ | ⟨f, rest, d, hfs, hsome, hd⟩
    · cases hnone.symm.trans hnext
      exact absurd rfl hr
    · cases hsome.symm.trans hnext
      exact ⟨⟨[], rfl⟩, .inr ⟨f, rest, hfs, rfl, hd⟩⟩
  · intro c c' hnext hcoming
    exact ⟨⟨[], rfl⟩, .inl ⟨.inr ⟨_, rfl⟩, hwaits hcoming hnext⟩⟩
  · intro c c' kind reads hnext hcoming
    exact ⟨⟨[], rfl⟩, .inl ⟨.inr ⟨_, rfl⟩, hwaits hcoming hnext⟩⟩
  · intro c c' reads hnext hcoming
    exact ⟨⟨[], rfl⟩, .inl ⟨.inl rfl, hwaits hcoming hnext⟩⟩
  · intro c c' data reads out hnext _ ih hcoming
    have hassoc : given (.ok data :: reads) ++ tail = data ++ (given reads ++ tail) :=
      List.append_assoc _ _ _
    rw [hassoc] at hcoming
    obtain ⟨⟨used, hused⟩, hresult⟩ := ih (hwaits hcoming hnext).1.fed
    refine ⟨⟨data ++ used, ?_⟩, hresult⟩
    show data ++ given reads = _
    rw [hused, List.append_assoc]

end FrameCodec

namespace WebSocket

variable {u : Utf8Crate} {w w' : WebSocket} {f : Frame} {m : Message}

/-- **What a connection does with what it hears.** -/
inductive Heeds (w : WebSocket) : Message → WebSocket → Prop
  | message {m : Message} (hm : ∀ c, m ≠ .close c) (hping : ∀ b, m ≠ .ping b) : Heeds w m w
  | ping {b : Bytes} (hb : b.length ≤ 125) (hstate : w.context.state = .active) :
      Heeds w (.ping b) (w.answeredBy (.pong b))
  /-- No ping processing after we sent a close frame. -/
  | late {b : Bytes} (hstate : w.context.state = .closedByUs) : Heeds w (.ping b) w
  | closed {c : CloseFrame} {reply : Frame} (hc : c.Short) (hstate : w.context.state = .active)
      (hreply : Frame.close (some c) = some reply) :
      Heeds w (.close (some c)) ((w.setState .closedByPeer).answeredBy reply)
  | acknowledged {c : Option CloseFrame} (hstate : w.context.state = .closedByUs) :
      Heeds w (.close c) (w.setState .closeAcknowledged)

theorem Heeds.answered (h : Heeds w m w') : Answered w w' := by
  cases h with
  | message => exact .refl w
  | ping _ hstate => exact .pong _ hstate
  | late => exact .refl w
  | closed _ hstate hreply => exact .reply hstate hreply
  | acknowledged hstate => exact .acknowledged hstate

theorem state_answeredBy (f : Frame) (w : WebSocket) :
    (w.answeredBy f).context.state = w.context.state := by
  rw [answeredBy]
  split
  · rfl
  · rfl

/-- The state after a message is taken: reading ends with a Close frame. -/
theorem Heeds.context {m : Message} (h : Heeds w m w') :
    w'.context.config = w.context.config ∧ w'.context.incomplete = w.context.incomplete ∧
      (w'.context.state = w.context.state ∧ (∀ c, m ≠ .close c) ∨
        w'.context.state.canRead = false ∧ ∃ c, m = .close c) := by
  cases h with
  | message hm => exact ⟨rfl, rfl, .inl ⟨rfl, hm⟩⟩
  | @ping b =>
      have hsame := SameReader.answeredBy (.pong b) w
      exact ⟨hsame.config, hsame.incomplete, .inl ⟨state_answeredBy _ w, by rintro _ ⟨⟩⟩⟩
  | late => exact ⟨rfl, rfl, .inl ⟨rfl, by rintro _ ⟨⟩⟩⟩
  | @closed c reply =>
      have hsame := SameReader.answeredBy reply (w.setState .closedByPeer)
      refine ⟨hsame.config, hsame.incomplete, .inr ⟨?_, _, rfl⟩⟩
      rw [state_answeredBy]
      rfl
  | acknowledged => exact ⟨rfl, rfl, .inr ⟨rfl, _, rfl⟩⟩

theorem canRead_iff {state : WebSocketState} :
    state.canRead = true ↔ state = .active ∨ state = .closedByUs := by
  cases state with
  | active => exact ⟨fun _ ↦ .inl rfl, fun _ ↦ rfl⟩
  | closedByUs => exact ⟨fun _ ↦ .inr rfl, fun _ ↦ rfl⟩
  | closedByPeer => exact ⟨by rintro ⟨⟩, by rintro (⟨⟨⟩⟩ | ⟨⟨⟩⟩)⟩
  | closeAcknowledged => exact ⟨by rintro ⟨⟩, by rintro (⟨⟨⟩⟩ | ⟨⟨⟩⟩)⟩
  | terminated => exact ⟨by rintro ⟨⟩, by rintro (⟨⟨⟩⟩ | ⟨⟨⟩⟩)⟩

/-- Control frames that are whole and not too big. -/
theorem controlFrame_close (hfinal : f.header.isFinal = true) (hlength : f.payload.length ≤ 125) :
    controlFrame .close f = (do
      let close ← EStateM.ofExcept f.intoClose
      let reply ← doClose close
      return reply.map .close) :=
  (if_neg (not_not_intro hfinal)).trans (if_neg (Nat.not_lt.2 hlength))

theorem controlFrame_ping (hfinal : f.header.isFinal = true) (hlength : f.payload.length ≤ 125) :
    controlFrame .ping f = (do
      let w ← get
      if w.context.state.isActive then setAdditional (.pong f.payload) true else pure ()
      return some (.ping f.payload)) :=
  (if_neg (not_not_intro hfinal)).trans (if_neg (Nat.not_lt.2 hlength))

theorem controlFrame_pong (hfinal : f.header.isFinal = true) (hlength : f.payload.length ≤ 125) :
    controlFrame .pong f = Pure.pure (some (.pong f.payload)) :=
  (if_neg (not_not_intro hfinal)).trans (if_neg (Nat.not_lt.2 hlength))

/-- A Close frame is answered by an active connection, and acknowledged by one that has closed. -/
theorem heeds_close {c : CloseFrame} (hc : c.Short) (hread : w.context.state.canRead = true) :
    ∃ c' w', (doClose (some c)).attempt w = (.ok (some (some c')), w') ∧
      (c' = c ∨ c' = c.checked) ∧ Heeds w (.close (some c')) w' := by
  rcases canRead_iff.1 hread with hstate | hstate
  · refine ⟨c.checked, (w.setState .closedByPeer).answeredBy _, ?_, .inr rfl,
      .closed hc.checked hstate rfl⟩
    rw [doClose, EStateM.attempt_get_bind, hstate]
    exact EStateM.attempt_bind_ok (attempt_answer_some _ _)
  · refine ⟨c, w.setState .closeAcknowledged, ?_, .inl rfl, .acknowledged hstate⟩
    rw [doClose, EStateM.attempt_get_bind, hstate]
    rfl

/-- A ping is answered by an active connection. -/
theorem heeds_ping {b : Bytes} (hb : b.length ≤ 125) (hread : w.context.state.canRead = true) :
    ∃ w', EStateM.attempt (if w.context.state.isActive then
        setAdditional (.pong b) true >>= fun _ ↦ Pure.pure (some (.ping b))
      else (Pure.pure (some (.ping b)) : Io (Option Message))) w = (.ok (some (.ping b)), w') ∧
      Heeds w (.ping b) w' := by
  rcases canRead_iff.1 hread with hstate | hstate
  · refine ⟨_, ?_, .ping hb hstate⟩
    rw [hstate]
    exact EStateM.attempt_bind_ok (attempt_setAdditional _ _ _)
  · refine ⟨w, ?_, .late hstate⟩
    rw [hstate]
    rfl

theorem setIncomplete_none (h : w.context.incomplete = none) : w.setIncomplete none = w := by
  obtain ⟨socket, ⟨role, frame, state, incomplete, additional, config⟩, automatic, replyEnd⟩ := w
  cases h
  rfl

/-- A message that is joined is no control message. -/
theorem message_of_joins {limit : Nat} {pending pending' : Pending} {d : Data} {data : Bytes}
    {isFinal : Bool} (h : Joins limit pending d data isFinal (some m) pending') :
    (∀ c, m ≠ .close c) ∧ ∀ b, m ≠ .ping b := by
  cases h with
  | message _ _ hspells =>
      cases hspells with
      | text => exact ⟨by rintro _ ⟨⟩, by rintro _ ⟨⟩⟩
      | binary => exact ⟨by rintro _ ⟨⟩, by rintro _ ⟨⟩⟩

/-- **A frame that says something is understood** by the other side. -/
theorem processFrame_spoken (hu : u.Lawful) {peer : Role} (h : Says peer m f)
    (hrole : w.context.role ≠ peer) (hread : w.context.state.canRead = true)
    (hlimit : w.context.config.maxMessageSize = some (64 <<< 20))
    (hincomplete : w.context.incomplete = none) :
    ∃ m' w', (processFrame u f.onWire).attempt w = (.ok (some m'), w') ∧ Hears m m' ∧
      Heeds w m' w' := by
  have hopcode := (header_applyMask f.onWire).1
  have hunmask : ∀ {accept : Bool}, (w.context.role = .server → f.onWire.isMasked ∨ accept) →
      (w.context.role = .client → ¬ f.onWire.isMasked) →
      unmask w.context.role accept f.onWire = .ok f.onWire.applyMask := by
    intro accept hserver hclient
    rcases unmask_spec w.context.role accept f.onWire with ⟨hok, -⟩ | ⟨-, hno⟩
    · exact hok
    · exact absurd ⟨hserver, hclient⟩ hno
  cases h with
  | message h =>
      obtain ⟨hadmissible, hbrings⟩ := h.brings hrole
      have hmask := @hunmask w.context.config.acceptUnmaskedFrames
        (fun hs ↦ (hadmissible.server hs).imp_right nofun) hadmissible.client
      have hlength := f.onWire.length_payload_applyMask
      have hfinal := (header_applyMask f.onWire).2
      cases hbrings with
      | ping hping =>
          obtain ⟨hwhole, hsmall⟩ := hadmissible.control _ hping
          rw [← hlength] at hsmall
          obtain ⟨w', hattempt, hheeds⟩ := heeds_ping hsmall hread
          refine ⟨_, w', ?_, .message (by rintro _ ⟨⟩), hheeds⟩
          rw [processFrame_control hread hadmissible.reserved hmask (hopcode.trans hping),
            controlFrame_ping (hfinal.trans hwhole) hsmall]
          exact hattempt
      | pong hpong =>
          obtain ⟨hwhole, hsmall⟩ := hadmissible.control _ hpong
          rw [← hlength] at hsmall
          refine ⟨_, w, ?_, .message (by rintro _ ⟨⟩), .message (by rintro _ ⟨⟩) (by rintro _ ⟨⟩)⟩
          rw [processFrame_control hread hadmissible.reserved hmask (hopcode.trans hpong),
            controlFrame_pong (hfinal.trans hwhole) hsmall]
          rfl
      | close hclose _ =>
          have hno := h.isClose
          rw [Frame.isClose, hclose] at hno
          cases hno
      | @data d _ _ hdata hjoins =>
          have hkeeps : Keeps w.context.incomplete none := by
            rw [hincomplete]
            exact .none
          obtain ⟨hclose, hping⟩ := message_of_joins hjoins
          rw [processFrame_data hread hadmissible.reserved hmask (hopcode.trans hdata)]
          have hspec :=
            dataFrame_spec hu hkeeps w.context.config.maxMessageSize d f.onWire.applyMask
          rw [hlimit, hfinal] at hspec
          rw [hlimit]
          rcases hspec with ⟨message, pending, hok, hjoins', hkeeps'⟩ | ⟨-, hno⟩
          · obtain ⟨rfl, rfl⟩ := hjoins.unique hjoins'
            rw [hok, Option.isNone_iff_eq_none.1 hkeeps'.isNone, setIncomplete_none hincomplete]
            exact ⟨m, w, rfl, .message hclose, .message hclose hping⟩
          · exact absurd hjoins (hno _ _)
  | @close c f₀ _ hc hf hg =>
      obtain ⟨hbare, hop, -, hreserved, hmasked⟩ := (bare_close hf).onWire hg
      obtain ⟨hinto, hlength⟩ := intoClose_close hf
      have hmask := @hunmask w.context.config.acceptUnmaskedFrames
        (fun hs ↦ .inl (hmasked.2 ?_)) fun hs hm ↦ hrole (hs.trans (hmasked.1 hm).symm)
      · have hclose : f₀.header.opcode = .control .close := of_decide_eq_true (close_spec hf).1
        have hsmall : f₀.payload.length ≤ 125 := by
          rw [hlength]
          exact Nat.add_le_add_right hc 2
        obtain ⟨c', w', hattempt, hc', hheeds⟩ := heeds_close (c := c.onWire) hc hread
        refine ⟨.close (some c'), w', ?_, ?_, hheeds⟩
        · rw [hbare] at hmask
          rw [processFrame_control hread hreserved hmask hclose,
            controlFrame_close (bare_close hf).isFinal hsmall]
          show EStateM.attempt (EStateM.ofExcept f₀.intoClose >>= fun close ↦
            doClose close >>= fun reply ↦ Pure.pure (reply.map Message.close)) w = _
          rw [hinto]
          exact EStateM.attempt_bind_ok hattempt
        · rcases hc' with rfl | rfl
          · exact .close
          · exact .checked
      · cases peer with
        | client => rfl
        | server => exact absurd hs hrole

/-- **How reading ends** where frames are coming: before it gets to them, with a reason to wait,
with a frame that comes too late, or with the next message. -/
inductive ReadsOn (tail : Bytes) (coming : List (Message × Frame)) (w : WebSocket) :
    Except Error Message → WebSocket → Prop
  | stops {e : Error} (he : e.Fair) (hblock : e ≠ .io .wouldBlock) :
      ReadsOn tail coming w (.error e) w
  | waits {e : Error} {w' : WebSocket} (he : e.Fair)
      (hw : w' = w.received ∨ w' = w.received.setState .terminated ∧
        (e = .protocol .resetWithoutClosingHandshake ∨ w.context.state.canRead = false))
      (hcoming : w'.context.frame.Coming (FrameCodec.given w'.socket.answers.reads ++ tail)
        (coming.map Prod.snd))
      (hne : coming ≠ [] → FrameCodec.given w'.socket.answers.reads ++ tail ≠ []) :
      ReadsOn tail coming w (.error e) w'
  | refuses {x : Message × Frame} {rest : List (Message × Frame)} (hx : coming = x :: rest)
      (hread : w.context.state.canRead = false)
      (hcoming : w.received.context.frame.Coming
        (FrameCodec.given w.received.socket.answers.reads ++ tail) (rest.map Prod.snd)) :
      ReadsOn tail coming w (.error (.protocol .receivedAfterClosing)) w.received
  | takes {x : Message × Frame} {rest : List (Message × Frame)} {m : Message} {w' : WebSocket}
      (hx : coming = x :: rest) (hread : w.context.state.canRead = true) (hhears : Hears x.1 m)
      (hheeds : Heeds w.received m w')
      (hcoming : w'.context.frame.Coming (FrameCodec.given w'.socket.answers.reads ++ tail)
        (rest.map Prod.snd)) :
      ReadsOn tail coming w (.ok m) w'

/-- Who would block waits for what is still coming. -/
theorem ReadsOn.waits_for {tail : Bytes} {coming : List (Message × Frame)}
    {a : Except Error Message} (h : ReadsOn tail coming w a w') (ha : a = .error (.io .wouldBlock))
    (hne : coming ≠ []) : FrameCodec.given w'.socket.answers.reads ++ tail ≠ [] := by
  cases h with
  | stops _ hblock =>
      cases ha
      exact absurd rfl hblock
  | waits _ _ _ hcoming => exact hcoming hne
  | refuses => cases ha
  | takes => cases ha

theorem fair_of_ended {α : Type} {e : Error} (h : Ended w (.error e : Except Error α)) :
    e.Fair := by
  cases h with
  | closed => trivial
  | io => trivial

/-- Who can read after a flush could read before it. -/
theorem Flushed.canRead (h : Flushed w w') (hread : w'.context.state.canRead = true) :
    w.context.state.canRead = true := by
  rcases h.state with hstate | ⟨hend, -⟩
  · rwa [← hstate]
  · rw [hend] at hread
    cases hread

/-- **A turn of the loop of `read`.** -/
theorem readsOn_turn (hu : u.Lawful) {peer : Role} {tail : Bytes} {coming : List (Message × Frame)}
    (hspoken : ∀ x ∈ coming, Says peer x.1 x.2) (hrole : w.context.role ≠ peer)
    (hlimits : w.context.config.Limits)
    (hincomplete : w.context.state.canRead = true → w.context.incomplete = none)
    (hcoming : w.context.frame.Coming (FrameCodec.given w.socket.answers.reads ++ tail)
      (coming.map Prod.snd)) (next : Io Message) :
    (readMessageFrame u >>= fun message ↦ match message with
      | some message => Pure.pure message
      | none => next).Ensures w fun r w' ↦ ReadsOn tail coming w r w' ∧
        ∃ used, FrameCodec.given w.socket.answers.reads =
          used ++ FrameCodec.given w'.socket.answers.reads := by
  have hframeRead : w.frameRead = w.context.frame.readLoop (16 <<< 20) w.socket.answers.reads := by
    rw [frameRead, hlimits.frame]
    rfl
  have hpasses : ∀ f ∈ coming.map Prod.snd, f.Passes (16 <<< 20) := by
    intro f hf
    obtain ⟨x, hx, rfl⟩ := List.mem_map.1 hf
    exact (hspoken x hx).passes
  obtain ⟨hused, hresult⟩ := FrameCodec.handsOn_readLoop (by decide) hpasses hcoming
  rw [← hframeRead] at hused hresult
  rcases hresult with ⟨hwaits, hcoming', hne⟩ | ⟨f, rest, hrest, hframe, hcoming'⟩
  · have hne' : coming ≠ [] →
        FrameCodec.given w.frameRead.reads ++ tail ≠ [] := by
      intro h
      exact hne fun hnil ↦ h (List.map_eq_nil_iff.1 hnil)
    refine (ensures_readMessageFrame w).bind ?_ ?_
    · rintro message w' (⟨f, hf, -⟩ | ⟨-, -, herror⟩ | ⟨e, -, -, herror⟩)
      · rcases hwaits with h | ⟨kind, h⟩
        · cases hf.symm.trans h
        · cases hf.symm.trans h
      · cases herror
      · cases herror
    · rintro e w' (⟨f, hf, -⟩ | ⟨-, rfl, he⟩ | ⟨e', he', rfl, he⟩)
      · rcases hwaits with h | ⟨kind, h⟩
        · cases hf.symm.trans h
        · cases hf.symm.trans h
      · cases he
        split
        · rename_i hclosed
          refine ⟨.waits trivial (.inr ⟨rfl, .inr ?_⟩) hcoming' hne', hused⟩
          rcases hclosed with hstate | hstate
          · rw [hstate]
            rfl
          · rw [hstate]
            rfl
        · exact ⟨.waits trivial (.inr ⟨rfl, .inl rfl⟩) hcoming' hne', hused⟩
      · refine ⟨.waits ?_ (.inl rfl) hcoming' hne', hused⟩
        rcases hwaits with h | ⟨kind, h⟩
        · cases he'.symm.trans h
        · cases he'.symm.trans h
          cases he
          split
          · trivial
          · trivial
  · obtain ⟨x, coming', rfl, rfl, rfl⟩ := List.map_eq_cons_iff.1 hrest
    cases hread : w.context.state.canRead with
    | true =>
        obtain ⟨m, w', hattempt, hhears, hheeds⟩ := processFrame_spoken (w := w.received) hu
          (hspoken x List.mem_cons_self) hrole hread hlimits.message (hincomplete hread)
        have hmessage : (readMessageFrame u).attempt w = (.ok (some m), w') := by
          rw [readMessageFrame_frame hframe, hattempt]
        have hsocket : w'.socket.answers.reads = w.frameRead.reads :=
          congrArg (·.answers.reads) hheeds.answered.codec.1
        have hcodec : w'.context.frame = w.frameRead.codec := hheeds.answered.codec.2.1
        rw [← hcodec, ← hsocket] at hcoming'
        rw [← hsocket] at hused
        rw [EStateM.Ensures, EStateM.attempt_bind_ok hmessage]
        exact ⟨.takes rfl hread hhears hheeds hcoming', hused⟩
    | false =>
        have herror : (readMessageFrame u).attempt w =
            (.error (.protocol .receivedAfterClosing), w.received) := by
          rw [readMessageFrame_frame hframe]
          exact processFrame_closing (w := w.received) hread _
        rw [EStateM.Ensures, EStateM.attempt_bind_error herror]
        exact ⟨.refuses rfl hread hcoming', hused⟩

/-- **What a call of `read` does** where frames are coming that say something: it flushes, and then
it hears the next one. -/
theorem ensures_readsOn (hu : u.Lawful) {peer : Role} {tail : Bytes}
    {coming : List (Message × Frame)} (hspoken : ∀ x ∈ coming, Says peer x.1 x.2)
    (hrole : w.context.role ≠ peer) (hlimits : w.context.config.Limits)
    (hincomplete : w.context.state.canRead = true → w.context.incomplete = none)
    (hcoming : w.context.frame.Coming (FrameCodec.given w.socket.answers.reads ++ tail)
      (coming.map Prod.snd)) :
    (read u).Ensures w fun r w' ↦ ∃ w₁, Flushed w w₁ ∧ ReadsOn tail coming w₁ r w' ∧
      (∃ used, FrameCodec.given w.socket.answers.reads =
        used ++ FrameCodec.given w'.socket.answers.reads) ∧
      (w.context.state = .terminated → r = .error .alreadyClosed) := by
  by_cases hstate : w.context.state = .terminated
  · have hattempt : (read u).attempt w = (.error .alreadyClosed, w) := by
      show EStateM.attempt (EStateM.ofExcept w.context.state.checkNotTerminated >>= _) w = _
      rw [hstate]
      rfl
    rw [EStateM.Ensures, hattempt]
    exact ⟨w, .refl w, .stops trivial (by rintro ⟨⟩), ⟨[], rfl⟩, fun _ ↦ rfl⟩
  · rw [EStateM.Ensures, attempt_read hstate]
    show EStateM.Ensures (_ >>= _) w fun r w' ↦ ∃ w₁, Flushed w w₁ ∧
      ReadsOn tail coming w₁ r w' ∧ (∃ used, FrameCodec.given w.socket.answers.reads =
        used ++ FrameCodec.given w'.socket.answers.reads) ∧
      (w.context.state = .terminated → r = .error .alreadyClosed)
    refine ((flushes_beforeRead w).and (beforeRead_ne_wouldBlock w)).bind ?_ ?_
    · rintro _ w₁ ⟨⟨hw₁, -⟩, -⟩
      have hreads : w₁.socket.answers.reads = w.socket.answers.reads :=
        congrArg Input.reads hw₁.input
      have hsame : w.context.frame.SameInput w₁.context.frame :=
        ⟨congrArg Input.inBuffer hw₁.input, congrArg Input.header hw₁.input⟩
      have hcoming₁ := hcoming.sameInput hsame
      rw [← hreads] at hcoming₁
      have hrole₁ : w₁.context.role ≠ peer := by
        rw [role_of_input hw₁.input]
        exact hrole
      have hlimits₁ : w₁.context.config.Limits := by
        rw [show w₁.context.config = w.context.config from congrArg Input.config hw₁.input]
        exact hlimits
      have hincomplete₁ : w₁.context.state.canRead = true → w₁.context.incomplete = none :=
        fun hread ↦ (congrArg Input.incomplete hw₁.input).trans (hincomplete (hw₁.canRead hread))
      refine (readsOn_turn hu hspoken hrole₁ hlimits₁ hincomplete₁ hcoming₁ _).mono ?_
      rintro r w' ⟨hreadsOn, hused⟩
      rw [hreads] at hused
      exact ⟨w₁, hw₁, hreadsOn, hused, fun h ↦ absurd h hstate⟩
    · rintro e w₁ ⟨⟨hw₁, hended⟩, hblock⟩
      refine ⟨w₁, hw₁, .stops (fair_of_ended hended) fun he ↦ hblock (congrArg _ he), ⟨[], ?_⟩,
        fun h ↦ absurd h hstate⟩
      rw [show w₁.socket.answers.reads = w.socket.answers.reads from congrArg Input.reads hw₁.input]
      rfl

end WebSocket

end Ws

end MessageIo
