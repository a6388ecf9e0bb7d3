import MessageIo.Lib.Transition
import MessageIo.Protocol.Reading

/-!
# The closing handshake

A Close frame comes from `close`, from `write` or from the answer to the peer's.  `Once` says that
there has been one at most, that none has been while the connection is active, and that no data
has been put out behind it.  All calls keep it but one: `write` of a raw Close frame, which
leaves the connection active.

`close` in an active connection puts a Close frame out exactly if it is given a code and the
frame has room (`close_sends_iff`).
-/

namespace MessageIo

namespace Ws

open Transition

namespace WebSocket

variable {u : Utf8Crate} {w w' w₀ : WebSocket} {f : Frame}

/-! ## The invariant -/

/-- The Close frames that have been put out, or wait in `additionalSend`. -/
def closes (w : WebSocket) : Nat :=
  w.socket.queued.countP (·.isClose) + w.context.additionalSend.toList.countP (·.isClose)

/-- **There is one Close frame at most**, and no data behind it. -/
structure Once (w : WebSocket) : Prop where
  additional : ∀ f, w.context.additionalSend = some f → f.isData = false
  once : w.closes ≤ 1
  active : w.context.state = .active → w.closes = 0
  last : w.socket.queued.Pairwise fun f g ↦ f.isClose → g.isData = false

/-- A frame is put out behind others. -/
theorem pairwise_concat {fs : List Frame}
    (h : fs.Pairwise fun f g ↦ f.isClose → g.isData = false) {g : Frame}
    (hg : g.isData = false ∨ fs.countP (·.isClose) = 0) :
    (fs ++ [g]).Pairwise fun f g ↦ f.isClose → g.isData = false := by
  refine List.pairwise_append.2 ⟨h, List.pairwise_singleton _ _, ?_⟩
  intro f hf g' hg' hclose
  rw [List.mem_singleton] at hg'
  subst hg'
  rcases hg with hdata | hnone
  · exact hdata
  · exact absurd hclose (List.countP_eq_zero.1 hnone f hf)

theorem countP_concat (fs : List Frame) (f : Frame) :
    (fs ++ [f]).countP (·.isClose) = fs.countP (·.isClose) + [f].countP (·.isClose) :=
  List.countP_append

/-- Waiting in `additionalSend` changes nothing but the mask. -/
theorem Stays.spec {role : Role} {a a' : Option Frame} (h : Stays role a a') :
    a'.toList.countP (·.isClose) = a.toList.countP (·.isClose) ∧
      ((∀ f, a = some f → f.isData = false) → ∀ f, a' = some f → f.isData = false) := by
  cases h with
  | same => exact ⟨rfl, id⟩
  | @masked f f' hgoes =>
      refine ⟨?_, ?_⟩
      · show [f'].countP (·.isClose) = [f].countP (·.isClose)
        rw [List.countP_singleton, List.countP_singleton, hgoes.isClose]
      · rintro hdata _ ⟨⟩
        rw [hgoes.isData]
        exact hdata f rfl

/-- Flushing puts no new Close frame out. -/
theorem Flushed.closes (h : Flushed w w') : w'.closes = w.closes := by
  cases h.moved with
  | stays hqueued _ hstays => rw [WebSocket.closes, WebSocket.closes, hqueued, hstays.spec.1]
  | @goes f f' hadditional hgoes hqueued _ hnone =>
      rw [WebSocket.closes, WebSocket.closes, hqueued, hnone, hadditional, countP_concat]
      show _ + [f'].countP (·.isClose) + 0 = _ + [f].countP (·.isClose)
      rw [List.countP_singleton, List.countP_singleton, hgoes.isClose, Nat.add_zero]

theorem Once.flushed (h : Once w) (hw : Flushed w w') : Once w' := by
  refine ⟨?_, ?_, ?_, ?_⟩
  · cases hw.moved with
    | stays _ _ hstays => exact hstays.spec.2 h.additional
    | goes _ _ _ _ hnone =>
        rw [hnone]
        exact fun _ h ↦ nomatch h
  · rw [hw.closes]
    exact h.once
  · rw [hw.closes]
    intro hstate
    refine h.active ?_
    rcases hw.state with hsame | ⟨hend, -⟩
    · rwa [← hsame]
    · rw [hend] at hstate
      cases hstate
  · cases hw.moved with
    | stays hqueued _ _ =>
        rw [hqueued]
        exact h.last
    | goes hadditional hgoes hqueued _ _ =>
        rw [hqueued]
        refine pairwise_concat h.last (.inl ?_)
        rw [hgoes.isData]
        exact h.additional _ hadditional

theorem Once.received (h : Once w) : Once w.received := ⟨h.additional, h.once, h.active, h.last⟩

/-- Something that is no data waits in `additionalSend`. -/
theorem Once.setAdditionalSend (h : Once w) (hf : f.isData = false)
    (hclose : f.isClose = true → w.socket.queued.countP (·.isClose) = 0 ∧
      w.context.state ≠ .active) (automatic : Bool) :
    Once (w.setAdditionalSend (some f) automatic) := by
  have hcloses : (w.setAdditionalSend (some f) automatic).closes =
      w.socket.queued.countP (·.isClose) + [f].countP (·.isClose) := rfl
  have hle : w.socket.queued.countP (·.isClose) ≤ w.closes := Nat.le_add_right _ _
  rw [List.countP_singleton] at hcloses
  refine ⟨?_, ?_, ?_, h.last⟩
  · rintro _ ⟨⟩
    exact hf
  · rw [hcloses]
    split
    · rename_i hf'
      rw [(hclose hf').1]
    · exact hle.trans h.once
  · intro hstate
    rw [hcloses, if_neg (fun hf' ↦ (hclose hf').2 hstate), Nat.add_zero]
    exact Nat.le_zero.1 (hle.trans (h.active hstate).le)

theorem Once.setState (h : Once w) {state : WebSocketState} (hstate : state ≠ .active) :
    Once (w.setState state) :=
  ⟨h.additional, h.once, fun hactive ↦ absurd hactive hstate, h.last⟩

theorem Once.answeredBy (h : Once w) (hf : f.isData = false)
    (hclose : f.isClose = true → w.socket.queued.countP (·.isClose) = 0 ∧
      w.context.state ≠ .active) : Once (w.answeredBy f) := by
  rw [WebSocket.answeredBy]
  split
  · exact h.setAdditionalSend hf hclose true
  · exact h

/-- A Close frame is no data. -/
theorem close_spec {code : Option CloseFrame} (h : Frame.close code = some f) :
    f.isClose = true ∧ f.isData = false := by
  cases code with
  | none => cases h
  | some c =>
      cases h
      exact ⟨rfl, rfl⟩

theorem Once.answered (h : Once w) (hw : Answered w w') : Once w' := by
  cases hw with
  | nothing => exact ⟨h.additional, h.once, h.active, h.last⟩
  | pong payload => exact h.answeredBy rfl nofun
  | @reply close reply hstate hreply =>
      have hclosing : Once (w.setState .closedByPeer) := h.setState nofun
      refine hclosing.answeredBy (close_spec hreply).2 fun _ ↦ ⟨?_, nofun⟩
      exact Nat.le_zero.1 ((Nat.le_add_right _ _).trans (h.active hstate).le)
  | closed => exact h.setState nofun
  | acknowledged => exact h.setState nofun
  | terminated => exact h.setState nofun

/-! ## Calls -/

theorem closes_buffered (f : Frame) (w : WebSocket) :
    (w.buffered f).closes = w.closes + if f.isClose then 1 else 0 := by
  show (w.socket.queued ++ [w.masked f]).countP _ + _ = _ + _ + _
  rw [countP_concat, List.countP_singleton, (goes_masked w f).isClose, Nat.add_right_comm]
  rfl

/-- A frame is put out before any Close frame has been. -/
theorem Once.buffered (h : Once w) (hnone : w.closes = 0)
    (hf : f.isClose = true → w.context.state ≠ .active) : Once (w.buffered f) := by
  have hcloses := closes_buffered f w
  rw [hnone, Nat.zero_add] at hcloses
  refine ⟨h.additional, ?_, ?_, ?_⟩
  · rw [hcloses]
    split
    · exact Nat.le_refl 1
    · exact Nat.zero_le 1
  · intro hstate
    rw [hcloses, if_neg fun hclose ↦ hf hclose hstate]
  · exact pairwise_concat h.last (.inr (Nat.eq_zero_of_add_eq_zero hnone).1)

theorem Once.ensures_flushes {α : Type} {m : Io α} (h : Once w) (hm : Flushes m) :
    m.Ensures w fun _ w' ↦ Once w' :=
  (hm w).mono fun _ _ hw ↦ h.flushed hw.1

/-- `_write` with a frame, which is put out before any Close frame has been or not at all. -/
theorem Once.ensures_write (h : Once w)
    (hf : w.Fits f → w.closes = 0 ∧ (f.isClose = true → w.context.state ≠ .active)) :
    (_write (some f)).Ensures w fun _ w' ↦ Once w' := by
  have hbuffer : (bufferFrame f).Ensures w fun _ w' ↦ Once w' := by
    refine (ensures_bufferFrame f w).mono ?_
    rintro r w' (⟨-, -, rfl⟩ | ⟨hfits, -, hw'⟩)
    · exact h.flushed (.drawMask w)
    · have hbuffered := h.buffered (hf hfits).1 (hf hfits).2
      rcases hw' with rfl | rfl
      · exact hbuffered
      · exact hbuffered.flushed (.drained _)
  rw [write_some]
  exact hbuffer.bind (fun _ w' hw' ↦ hw'.ensures_flushes flushes_write) fun _ _ hw' ↦ hw'

theorem Once.ensures_writeFrame (h : Once w)
    (hf : w.Fits f → w.closes = 0 ∧ (f.isClose = true → w.context.state ≠ .active)) :
    (writeFrame f).Ensures w fun _ w' ↦ Once w' := by
  refine (h.ensures_write hf).bind (fun flushNow w' hw' ↦ ?_) fun _ _ hw' ↦ hw'
  cases flushNow with
  | true => exact hw'.ensures_flushes flushes_flush
  | false => exact hw'

theorem Once.ensures_close (h : Once w) (code : Option CloseFrame) :
    (close code).Ensures w fun _ w' ↦ Once w' := by
  refine EStateM.Ensures.get_bind (EStateM.Ensures.ite ?_ ?_)
  · intro hstate
    refine EStateM.Ensures.set_bind ?_
    have hclosing : Once (w.setState .closedByUs) := h.setState nofun
    have hwrite : (_write (Frame.close code)).Ensures (w.setState .closedByUs)
        fun _ w' ↦ Once w' := by
      cases Frame.close code with
      | none => exact hclosing.ensures_flushes flushes_write
      | some f => exact hclosing.ensures_write fun _ ↦ ⟨h.active hstate, fun _ ↦ nofun⟩
    exact hwrite.bind (fun _ w' hw' ↦ hw'.ensures_flushes flushes_flush) fun _ _ hw' ↦ hw'
  · exact fun _ ↦ h.ensures_flushes flushes_flush

theorem Once.ensures_writeMessage (h : Once w) {message : Message}
    (hraw : ∀ f, message = .frame f → w.context.state = .active → w.Fits f → ¬ f.isClose) :
    (write message).Ensures w fun _ w' ↦ Once w' := by
  rw [EStateM.Ensures]
  by_cases hstate : w.context.state = .active
  · rw [attempt_write_active hstate]
    have hnone := h.active hstate
    cases message with
    | text data => exact h.ensures_writeFrame fun _ ↦ ⟨hnone, by rintro ⟨⟩⟩
    | binary buffer => exact h.ensures_writeFrame fun _ ↦ ⟨hnone, by rintro ⟨⟩⟩
    | ping buffer => exact h.ensures_writeFrame fun _ ↦ ⟨hnone, by rintro ⟨⟩⟩
    | pong buffer =>
        have hpong : (setAdditional (.pong buffer) false).Ensures w fun _ w' ↦ Once w' := by
          rw [EStateM.Ensures, attempt_setAdditional]
          split
          · exact h.setAdditionalSend (f := .pong buffer) rfl (by rintro ⟨⟩) false
          · exact h
        show EStateM.Ensures (_ >>= fun _ ↦ _write none >>= fun _ ↦ Pure.pure ()) w
          fun _ w' ↦ Once w'
        refine hpong.bind (fun _ w' hw' ↦ ?_) fun _ _ hw' ↦ hw'
        exact (hw'.ensures_flushes flushes_write).bind (fun _ _ hw ↦ hw) fun _ _ hw ↦ hw
    | close code => exact h.ensures_close code
    | frame f =>
        exact h.ensures_writeFrame fun hfits ↦
          ⟨hnone, fun hclose ↦ absurd hclose (hraw f rfl hstate hfits)⟩
  · obtain ⟨e, -, he⟩ := attempt_write_inactive hstate message
    rw [he]
    exact h

/-! ## Runs -/

/-- No raw Close frame is written to a connection that is active and has room for it. -/
def NoRawClose (w : WebSocket) (a : Call × Answers) : Prop :=
  ∀ f, a.1 = .write (.frame f) → w.context.state = .active → (w.answered a.2).Fits f → ¬ f.isClose

/-- A step keeps the invariant. -/
theorem Once.step (h : Once w) {a : Call × Answers} (ha : NoRawClose w a)
    (hw : w.step u a = some w') : Once w' := by
  obtain ⟨c, answers⟩ := a
  cases hw
  have hanswered : Once (w.answered answers) := ⟨h.additional, h.once, h.active, h.last⟩
  have hcall : (call u c).Ensures (w.answered answers) fun _ w' ↦ Once w' := by
    cases c with
    | read =>
        have hkept : Kept Once := ⟨Once.flushed, Once.received, Once.answered⟩
        exact (hkept.ensures_read hanswered).bind (fun _ _ hw ↦ hw) fun _ _ hw ↦ hw
    | write message =>
        have hraw : ∀ f, message = .frame f → w.context.state = .active →
            (w.answered answers).Fits f → ¬ f.isClose := fun f hf ↦ ha f (congrArg Call.write hf)
        exact (hanswered.ensures_writeMessage hraw).bind (fun _ _ hw ↦ hw) fun _ _ hw ↦ hw
    | flush =>
        exact (hanswered.ensures_flushes flushes_flush).bind (fun _ _ hw ↦ hw) fun _ _ hw ↦ hw
    | close code =>
        exact (hanswered.ensures_close code).bind (fun _ _ hw ↦ hw) fun _ _ hw ↦ hw
  exact hcall

/-- **Nothing is closed at first.** -/
theorem once_fromPartiallyRead {answers : Answers} {part : Bytes} {role : Role}
    {config : Option WebSocketConfig}
    (h : fromPartiallyRead (.new answers) part role config = .ok w₀) : Once w₀ := by
  obtain ⟨frame, -, rfl⟩ := fromPartiallyRead_ok h
  exact ⟨by rintro f ⟨⟩, Nat.zero_le 1, fun _ ↦ rfl, List.Pairwise.nil⟩

/-- A call that closes the connection. -/
inductive Closes (code : Option CloseFrame) : Call → Prop
  | close : Closes code (.close code)
  | write : Closes code (.write (.close code))

/-- Both calls that close an active connection do the same. -/
theorem attempt_closes {code : Option CloseFrame} {c : Call} (hc : Closes code c)
    (h : w.context.state = .active) :
    ((call u c).attempt w).2 =
      ((_write (Frame.close code) >>= fun _ ↦ flush).attempt (w.setState .closedByUs)).2 := by
  have hclose : (close code).attempt w =
      (_write (Frame.close code) >>= fun _ ↦ flush).attempt (w.setState .closedByUs) := by
    show EStateM.attempt (if w.context.state = .active then _ else _) w = _
    rw [if_pos h]
    rfl
  have hcall : ∀ {m : Io Unit}, m.attempt w = (close code).attempt w →
      (m >>= fun _ ↦ (Pure.pure none : Io (Option Message))).attempt w =
        ((((close code).attempt w).1.map fun _ ↦ none), ((close code).attempt w).2) := by
    intro m hm
    rw [EStateM.attempt_bind, hm]
    generalize (close code).attempt w = out
    obtain ⟨r, w'⟩ := out
    cases r with
    | ok a => rfl
    | error e => rfl
  cases hc with
  | close =>
      show ((close code >>= fun _ ↦ (Pure.pure none : Io (Option Message))).attempt w).2 = _
      rw [hcall rfl, hclose]
  | write =>
      show
        ((write (.close code) >>= fun _ ↦ (Pure.pure none : Io (Option Message))).attempt w).2 = _
      rw [hcall (attempt_write_active h _), hclose]

/-- **A Close frame is put out exactly if there is one and it has room.** -/
theorem closes_after {code : Option CloseFrame} (hnone : w.closes = 0) :
    (_write (Frame.close code) >>= fun _ ↦ flush).Ensures w fun _ w' ↦
      w'.closes = 1 ↔ ∃ f, Frame.close code = some f ∧ w.Fits f := by
  have hkeeps : ∀ {w₁ : WebSocket} {p : Prop}, (w₁.closes = 1 ↔ p) →
      (_write none >>= fun _ ↦ flush).Ensures w₁ fun _ w' ↦ w'.closes = 1 ↔ p := by
    intro w₁ p h
    refine ((flushes_write.bind fun _ ↦ flushes_flush) w₁).mono ?_
    rintro _ w' ⟨hw', -⟩
    rwa [hw'.closes]
  cases hclose : Frame.close code with
  | none =>
      refine hkeeps ?_
      rw [hnone]
      exact ⟨by rintro ⟨⟩, by rintro ⟨f, ⟨⟩, -⟩⟩
  | some f =>
      have hbuffer : (bufferFrame f).Ensures w fun _ w' ↦
          w'.closes = 1 ↔ ∃ f', some f = some f' ∧ w.Fits f' := by
        have hbuffered : (w.buffered f).closes = 1 := by
          rw [closes_buffered, hnone, if_pos (close_spec hclose).1]
        refine (ensures_bufferFrame f w).mono ?_
        rintro r w' (⟨hfull, -, rfl⟩ | ⟨hfits, -, hw'⟩)
        · rw [(Flushed.drawMask w).closes, hnone]
          refine ⟨by rintro ⟨⟩, ?_⟩
          rintro ⟨_, ⟨⟩, hfits⟩
          exact absurd hfits hfull
        · refine ⟨fun _ ↦ ⟨f, rfl, hfits⟩, fun _ ↦ ?_⟩
          rcases hw' with rfl | rfl
          · exact hbuffered
          · rw [(Flushed.drained _).closes, hbuffered]
      rw [write_some, bind_assoc]
      exact hbuffer.bind (fun _ _ hw₁ ↦ hkeeps hw₁) fun _ _ hw₁ ↦ hw₁

/-- **The closing handshake**, as long as no raw Close frame is written to an active connection
that has room for it: there is one Close frame at most in all that is put out, no data
follows it, and closing an active connection puts one out, or keeps it in `additionalSend`,
exactly if it is given a code and the frame has room. -/
theorem close_sends_iff {answers : Answers} {part : Bytes} {role : Role}
    {config : Option WebSocketConfig}
    (hnew : fromPartiallyRead (.new answers) part role config = .ok w₀)
    (h : Reach (step u) NoRawClose w₀ w) :
    w.socket.queued.countP (·.isClose) ≤ 1 ∧
      (w.socket.queued.Pairwise fun f g ↦ f.isClose → g.isData = false) ∧
      ∀ (code : Option CloseFrame) (c : Call) (answers : Answers), Closes code c →
        w.context.state = .active →
        ((w.perform u (c, answers)).2.closes = 1 ↔
          ∃ f, Frame.close code = some f ∧ (w.answered answers).Fits f) := by
  have honce : Once w := h.invariant (once_fromPartiallyRead hnew) fun hw ha hs ↦ hw.step ha hs
  refine ⟨(Nat.le_add_right _ _).trans honce.once, honce.last, ?_⟩
  intro code c answers hcloses hstate
  have hanswered : (w.answered answers).context.state = .active := hstate
  show ((call u c).attempt (w.answered answers)).2.closes = 1 ↔ _
  rw [attempt_closes hcloses hanswered]
  exact closes_after (w := (w.answered answers).setState .closedByUs) (honce.active hstate)

/-- A server writes, is sent a ping and flushes a part of its answers. -/
def serverCalls : List (Call × Answers) :=
  [(.write (.binary [7]), ⟨[], [], [], []⟩),
    (.read, ⟨[.ok [0x89, 0x81, 0, 0, 0, 0, 9]], [], [], []⟩),
    (.flush, ⟨[], [.ok 2], [], []⟩)]

/-- Then it closes with a code: its Close frame is behind the message and the pong. -/
theorem close_sends_iff_normal : ∃ w : WebSocket,
    run (step .reference) (fresh .server ⟨[], [], [], []⟩) serverCalls = some w ∧
      w.socket.queued.map (·.payload) = [[7], [9]] ∧ w.socket.written = [0x82, 0x01] ∧
        w.socket.queued.countP (·.isClose) ≤ 1 ∧
          (w.perform .reference (.close (some ⟨.normal, []⟩), ⟨[], [], [], []⟩)).2.closes = 1 := by
  obtain ⟨w, hrun, hqueued, hwritten, hstate, hfits⟩ : ∃ w : WebSocket,
      run (step .reference) (fresh .server ⟨[], [], [], []⟩) serverCalls = some w ∧
        w.socket.queued.map (·.payload) = [[7], [9]] ∧ w.socket.written = [0x82, 0x01] ∧
          w.context.state = .active ∧
            ∃ f, Frame.close (some ⟨.normal, []⟩) = some f ∧
              (w.answered ⟨[], [], [], []⟩).Fits f :=
    ⟨_, rfl, rfl, rfl, rfl, _, rfl, by decide⟩
  have hraw : ∀ a ∈ serverCalls, ∀ w : WebSocket, w.NoRawClose a := by
    simp [serverCalls, NoRawClose]
  have hnew : fromPartiallyRead (.new ⟨[], [], [], []⟩) [] .server none =
      .ok (fresh .server ⟨[], [], [], []⟩) := rfl
  obtain ⟨honce, -, hcloses⟩ := close_sends_iff hnew (.of_run hraw hrun)
  exact ⟨w, hrun, hqueued, hwritten, honce, (hcloses _ _ _ .close hstate).2 hfits⟩

/-- **`close(None)` sends no Close frame**: it returns, and nothing is put out or waits. -/
theorem closeNone_sends_nothing :
    ((fresh .server ⟨[], [], [], []⟩).perform .reference (.close none, ⟨[], [], [], []⟩)).1 =
        .ok none ∧
      ((fresh .server ⟨[], [], [], []⟩).perform .reference
        (.close none, ⟨[], [], [], []⟩)).2.closes = 0 ∧
      ((fresh .server ⟨[], [], [], []⟩).perform .reference
        (.close none, ⟨[], [], [], []⟩)).2.context.state = .closedByUs :=
  ⟨rfl, rfl, rfl⟩

/-- A raw Close frame is put out as often as it is written. -/
example :
    let a : Call × Answers := (.write (.frame ⟨FrameHeader.default, []⟩), ⟨[], [], [], []⟩)
    (((fresh .server ⟨[], [], [], []⟩).perform .reference a).2.perform .reference a).2.closes = 2 :=
  rfl

end WebSocket

end Ws

end MessageIo
