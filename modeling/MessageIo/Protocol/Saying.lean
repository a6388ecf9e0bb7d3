import MessageIo.Protocol.Hearing

/-!
# What a side says

`Speech` says what a connection has put out: frames that say something, a pong at most behind a
Close frame, and what waits in `additionalSend`.  A call adds to it the messages that it accepts,
in their order, and perhaps what has waited (`Adds`).
-/

namespace MessageIo

namespace Ws

namespace WebSocket

variable {u : Utf8Crate} {w w' : WebSocket} {f : Frame} {m : Message}

/-! ## What has been said -/

/-- **What waits in `additionalSend`**: a pong or a Close frame, which a client may have masked. -/
inductive Utters (role : Role) : Message → Frame → Prop
  | pong {b : Bytes} {g : Frame} (hb : b.length ≤ 125)
      (hg : Stays role (some (.pong b)) (some g)) : Utters role (.pong b) g
  | close {c : CloseFrame} {f g : Frame} (hc : c.Short) (hf : Frame.close (some c) = some f)
      (hg : Stays role (some f) (some g)) : Utters role (.close (some c)) g

section Utters

variable {role : Role} {g : Frame}

theorem Goes.after (h : Stays role (some f) (some g)) {g' : Frame} (hg : Goes role g g') :
    Goes role f g' := by
  cases h with
  | same => exact hg
  | masked hfirst => exact hfirst.trans hg

theorem Utters.stays (h : Utters role m f) (hs : Stays role (some f) (some g)) :
    Utters role m g := by
  cases h with
  | pong hb hg => exact .pong hb (hg.trans hs)
  | close hc hf hg => exact .close hc hf (hg.trans hs)

/-- It says what it is to say when it goes out. -/
theorem Utters.goes (h : Utters role m f) (hg : Goes role f g) : Says role m g := by
  cases h with
  | pong hb hstays => exact .message ⟨_, .pong hb, Goes.after hstays hg⟩
  | close hc hf hstays => exact .close hc hf (Goes.after hstays hg)

theorem Utters.kind (h : Utters role m f) :
    m.ordered = false ∧ (f.isPong = true ∨ f.isClose = true) ∧ f.isData = false := by
  cases h with
  | pong hb hg =>
      cases hg with
      | same => exact ⟨rfl, .inl rfl, rfl⟩
      | masked hgoes => exact ⟨rfl, .inl hgoes.isPong, hgoes.isData⟩
  | close hc hf hg =>
      obtain ⟨hclose, hdata⟩ := close_spec hf
      cases hg with
      | same => exact ⟨rfl, .inr hclose, hdata⟩
      | masked hgoes => exact ⟨rfl, .inr (hgoes.isClose.trans hclose), hgoes.isData.trans hdata⟩

end Utters

/-- **What a side has said**, frame by frame, and what it is about to say; `cause` holds of all of
it.  Behind a Close frame there is a pong at most. -/
structure Speech (side : Role) (cause : Message → Prop) (w : WebSocket)
    (said : List (Message × Frame)) : Prop where
  role : w.context.role = side
  once : Once w
  queued : w.socket.queued = said.map Prod.snd
  output : w.output = (said.map Prod.snd).flatMap Frame.format
  spoken : ∀ x ∈ said, Says side x.1 x.2 ∧ cause x.1
  utters : ∀ f, w.context.additionalSend = some f → ∃ m, Utters side m f ∧ cause m
  behind : said.Pairwise fun x y ↦ x.2.isClose → y.2.isPong

section Speech

variable {role : Role} {cause cause' : Message → Prop} {said : List (Message × Frame)}

theorem Speech.mono (h : Speech role cause w said) (hcause : ∀ m, cause m → cause' m) :
    Speech role cause' w said :=
  ⟨h.role, h.once, h.queued, h.output, fun x hx ↦ ⟨(h.spoken x hx).1, hcause _ (h.spoken x hx).2⟩,
    fun f hf ↦ (h.utters f hf).imp fun _ hm ↦ ⟨hm.1, hcause _ hm.2⟩, h.behind⟩

/-- A frame is put behind the others. -/
theorem behind_concat (h : said.Pairwise fun x y ↦ x.2.isClose → y.2.isPong)
    {x : Message × Frame} (hx : x.2.isPong = true ∨ (said.map Prod.snd).countP (·.isClose) = 0) :
    (said ++ [x]).Pairwise fun x y ↦ x.2.isClose → y.2.isPong := by
  refine List.pairwise_append.2 ⟨h, List.pairwise_singleton _ _, ?_⟩
  intro y hy z hz hclose
  rw [List.mem_singleton] at hz
  subst hz
  rcases hx with hpong | hnone
  · exact hpong
  · exact absurd hclose (List.countP_eq_zero.1 hnone _ (List.mem_map_of_mem hy))

/-- Flushing may say what waits. -/
theorem Speech.flushed (h : Speech role cause w said) (hw : Flushed w w') :
    ∃ more, Speech role cause w' (said ++ more) ∧
      (more.map Prod.fst).filter Message.ordered = [] := by
  have honce := h.once.flushed hw
  have hrole := (role_of_input hw.input).trans h.role
  cases hw.moved with
  | stays hqueued houtput hstays =>
      refine ⟨[], ?_, rfl⟩
      rw [List.append_nil]
      refine ⟨hrole, honce, hqueued.trans h.queued, houtput.trans h.output, h.spoken, ?_, h.behind⟩
      rw [h.role] at hstays
      have hutters := h.utters
      generalize w.context.additionalSend = a at hstays hutters
      rintro g hg
      rw [hg] at hstays
      cases hstays with
      | same => exact hutters g rfl
      | @masked f _ hgoes =>
          obtain ⟨m, hm, hcause⟩ := hutters f rfl
          exact ⟨m, hm.stays (.masked hgoes), hcause⟩
  | @goes f g hsome hgoes hqueued houtput hnone =>
      obtain ⟨m, hm, hcause⟩ := h.utters f hsome
      rw [h.role] at hgoes
      refine ⟨[(m, g)], ⟨hrole, honce, ?_, ?_, ?_, ?_, behind_concat h.behind ?_⟩, ?_⟩
      · rw [hqueued, h.queued, List.map_append]
        rfl
      · rw [houtput, h.output, List.map_append, List.flatMap_append]
        exact congrArg _ (List.append_nil _).symm
      · intro x hx
        rcases List.mem_append.1 hx with hx | hx
        · exact h.spoken x hx
        · rw [List.mem_singleton] at hx
          subst hx
          exact ⟨hm.goes hgoes, hcause⟩
      · rw [hnone]
        rintro _ ⟨⟩
      · rcases hm.kind.2.1 with hpong | hclose
        · exact .inl (hgoes.isPong.trans hpong)
        · refine .inr ?_
          have hle := h.once.once
          rw [closes, hsome, Option.toList_some, List.countP_singleton, if_pos hclose] at hle
          rw [← h.queued]
          exact Nat.le_zero.1 (Nat.le_of_succ_le_succ hle)
      · rw [List.map_singleton, List.filter_singleton, hm.kind.1, cond_false]

theorem Speech.received (h : Speech role cause w said) : Speech role cause w.received said := by
  refine ⟨h.role, h.once.received, h.queued, ?_, h.spoken, h.utters, h.behind⟩
  show w.socket.written ++ w.frameRead.codec.outBuffer = _
  rw [show w.frameRead.codec.outBuffer = w.context.frame.outBuffer from
    (sameOutput_received w).outBuffer]
  exact h.output

theorem Speech.setState (h : Speech role cause w said) {state : WebSocketState}
    (hstate : state ≠ .active) : Speech role cause (w.setState state) said :=
  ⟨h.role, h.once.setState hstate, h.queued, h.output, h.spoken, h.utters, h.behind⟩

theorem Speech.answered (h : Speech role cause w said) (answers : Answers) :
    Speech role cause (w.answered answers) said :=
  ⟨h.role, ⟨h.once.additional, h.once.once, h.once.active, h.once.last⟩, h.queued, h.output,
    h.spoken, h.utters, h.behind⟩

/-- More bytes have been received. -/
theorem Speech.fed (h : Speech role cause w said) (data : Bytes) :
    Speech role cause (w.fed data) said :=
  ⟨h.role, ⟨h.once.additional, h.once.once, h.once.active, h.once.last⟩, h.queued, h.output,
    h.spoken, h.utters, h.behind⟩

/-- A frame waits. -/
theorem Speech.setAdditionalSend (h : Speech role cause w said) (hm : Utters role m f)
    (hcause : cause m) (hclose : f.isClose = true → w.socket.queued.countP (·.isClose) = 0 ∧
      w.context.state ≠ .active) (automatic : Bool) :
    Speech role cause (w.setAdditionalSend (some f) automatic) said := by
  refine ⟨h.role, h.once.setAdditionalSend hm.kind.2.2 hclose automatic, h.queued, h.output,
    h.spoken, ?_, h.behind⟩
  rintro _ ⟨⟩
  exact ⟨m, hm, hcause⟩

theorem Speech.answeredBy (h : Speech role cause w said) (hm : Utters role m f) (hcause : cause m)
    (hclose : f.isClose = true → w.socket.queued.countP (·.isClose) = 0 ∧
      w.context.state ≠ .active) : Speech role cause (w.answeredBy f) said := by
  rw [WebSocket.answeredBy]
  split
  · exact h.setAdditionalSend hm hcause hclose true
  · exact h

/-- What is heard may be answered. -/
theorem Speech.heeds (h : Speech role cause w said) (ht : Heeds w m w')
    (hping : ∀ b, m = .ping b → cause (.pong b)) (hclose : ∀ c, m = .close c → cause m) :
    Speech role cause w' said := by
  cases ht with
  | message => exact h
  | ping hb hstate => exact h.answeredBy (.pong hb .same) (hping _ rfl) (by rintro ⟨⟩)
  | late => exact h
  | closed hc hstate hreply =>
      have hnone : w.closes = 0 := h.once.active hstate
      refine (h.setState (by rintro ⟨⟩)).answeredBy (.close hc hreply .same) (hclose _ rfl)
        fun _ ↦ ⟨?_, by rintro ⟨⟩⟩
      exact (Nat.eq_zero_of_add_eq_zero hnone).1
  | acknowledged => exact h.setState (by rintro ⟨⟩)

/-- **What a call of `read` says**: what has waited, and nothing that keeps its order. -/
theorem Speech.readsOn {w₁ : WebSocket} {tail : Bytes} {coming : List (Message × Frame)}
    {a : Except Error Message} (h : Speech role cause w said) (hw : Flushed w w₁)
    (hr : ReadsOn tail coming w₁ a w') (hping : ∀ b, a = .ok (.ping b) → cause (.pong b))
    (hclose : ∀ x ∈ coming, ∀ c, Hears x.1 (.close c) → cause (.close c)) :
    ∃ more, Speech role cause w' (said ++ more) ∧
      (more.map Prod.fst).filter Message.ordered = [] := by
  obtain ⟨more, hspeech, hmore⟩ := h.flushed hw
  refine ⟨more, ?_, hmore⟩
  cases hr with
  | stops => exact hspeech
  | waits he hw' =>
      rcases hw' with rfl | ⟨rfl, -⟩
      · exact hspeech.received
      · exact hspeech.received.setState (by rintro ⟨⟩)
  | refuses => exact hspeech.received
  | @takes x _ m _ hx hread hhears hheeds =>
      refine hspeech.received.heeds hheeds (fun b hm ↦ hping b (congrArg _ hm)) ?_
      rintro c rfl
      exact hclose x (hx ▸ List.mem_cons_self) c hhears

/-- A frame is put out before any Close frame has been. -/
theorem Speech.buffered (h : Speech role cause w said) (hm : Says role m (w.masked f))
    (hcause : cause m) (hnone : w.closes = 0)
    (hf : f.isClose = true → w.context.state ≠ .active) :
    Speech role cause (w.buffered f) (said ++ [(m, w.masked f)]) := by
  refine ⟨h.role, h.once.buffered hnone hf, ?_, ?_, ?_, h.utters, behind_concat h.behind ?_⟩
  · show w.socket.queued ++ [w.masked f] = _
    rw [h.queued, List.map_append]
    rfl
  · rw [output_buffered, h.output, List.map_append, List.flatMap_append]
    exact congrArg _ (List.append_nil _).symm
  · intro x hx
    rcases List.mem_append.1 hx with hx | hx
    · exact h.spoken x hx
    · rw [List.mem_singleton] at hx
      subst hx
      exact ⟨hm, hcause⟩
  · rw [← h.queued]
    exact .inr (Nat.eq_zero_of_add_eq_zero hnone).1

end Speech

/-! ## Calls that write -/

/-- **What a side may be asked for**: messages that are not too big, and Close frames with a reason
that is not too long. -/
inductive Polite : Call → Prop
  | read : Polite .read
  | flush : Polite .flush
  | write {m : Message} {f : Frame} (h : Sendable m f) : Polite (.write m)
  | close {code : Option CloseFrame} {c : Call} (hcode : ∀ c ∈ code, c.Short)
      (hc : Closes code c) : Polite c

/-- A message is refused: the connection is closing, or there is no room. -/
def refuses : Error → Bool
  | .writeBufferFull _ | .alreadyClosed => true
  | .protocol .sendAfterClosing => true
  | _ => false

def isRefusal {α : Type} : Except Error α → Bool
  | .ok _ => false
  | .error e => refuses e

/-- The message that a call is given and does not refuse. -/
def accepted {α : Type} : Call → Except Error α → Option Message
  | .write m, r => if isRefusal r then none else some m
  | _, _ => none

/-- The peer has closed. -/
def peerClosed : WebSocketState → Bool
  | .closedByPeer | .closeAcknowledged => true
  | _ => false

/-- **What a call adds to what has been said**: messages that have been accepted, and perhaps what
has waited; to what is read it does nothing. -/
structure Adds (side : Role) (cause : Message → Prop) (said : List (Message × Frame))
    (w : WebSocket) (accepted : List Message) (w' : WebSocket) : Prop where
  speech : ∃ more, Speech side cause w' (said ++ more) ∧
    (more.map Prod.fst).filter Message.ordered = accepted.filter Message.ordered
  input : w'.input = w.input
  canRead : w'.context.state.canRead = true → w.context.state.canRead = true
  peerClosed : peerClosed w'.context.state = true → peerClosed w.context.state = true

section Adds

variable {side : Role} {cause : Message → Prop} {said : List (Message × Frame)}

theorem Flushed.peerClosed (h : Flushed w w') (hclosed : peerClosed w'.context.state = true) :
    WebSocket.peerClosed w.context.state = true := by
  rcases h.state with hstate | ⟨hend, -⟩
  · rwa [← hstate]
  · rw [hend] at hclosed
    cases hclosed

theorem Speech.adds_flushed (h : Speech side cause w said) (hw : Flushed w w') :
    Adds side cause said w [] w' :=
  ⟨h.flushed hw, hw.input, hw.canRead, hw.peerClosed⟩

/-- A frame is put out, and more is flushed. -/
theorem Speech.adds_buffered (h : Speech side cause w said) (hm : Says side m (w.masked f))
    (hcause : cause m) (hnone : w.closes = 0) (hf : f.isClose = true → w.context.state ≠ .active)
    (hw : Flushed (w.buffered f) w') : Adds side cause said w [m] w' := by
  obtain ⟨more, hspeech, hmore⟩ := (h.buffered hm hcause hnone hf).flushed hw
  refine ⟨⟨(m, w.masked f) :: more, ?_, ?_⟩, hw.input, hw.canRead, hw.peerClosed⟩
  · rw [List.append_assoc] at hspeech
    exact hspeech
  · rw [List.map_cons, List.filter_cons, hmore, List.filter_cons]
    rfl

/-- How flushing ends is a matter of the state before. -/
theorem Ended.of_state {α : Type} {r : Except Error α} (h : Ended w' r)
    (hstate : w'.context.state = w.context.state) : Ended w r := by
  cases h with
  | ok a => exact .ok a
  | closed hclosing => exact .closed (hstate ▸ hclosing)
  | io kind => exact .io kind

/-- Flushing refuses nothing. -/
theorem Ended.isRefusal {α : Type} {r : Except Error α} (h : Ended w r) :
    WebSocket.isRefusal r = false := by
  cases h with
  | ok => rfl
  | closed => rfl
  | io => rfl

/-- **A frame is put out, and more is flushed**, or there is no room. -/
theorem ensures_bufferFrame_bind {α : Type} {next : Unit → Io α} (hnext : ∀ a, Flushes (next a))
    (f : Frame) (w : WebSocket) :
    (bufferFrame f >>= next).Ensures w fun r w' ↦
      (¬ w.Fits f ∧ r = .error (.writeBufferFull (.frame (w.masked f))) ∧ w' = w.drawMask) ∨
        (w.Fits f ∧ Ended w r ∧ Flushed (w.buffered f) w') := by
  refine (ensures_bufferFrame f w).bind ?_ ?_
  · rintro a w₁ (⟨-, herror, -⟩ | ⟨hfits, -, hw₁⟩)
    · cases herror
    · refine (hnext a w₁).mono fun r w' hw' ↦ .inr ⟨hfits, ?_⟩
      rcases hw₁ with rfl | rfl
      · exact ⟨hw'.2.of_state rfl, hw'.1⟩
      · exact ⟨hw'.2.of_state rfl, (Flushed.drained _).trans hw'.1⟩
  · rintro e w₁ (⟨hfull, herror, rfl⟩ | ⟨hfits, he, hw₁⟩)
    · cases herror
      exact .inl ⟨hfull, rfl, rfl⟩
    · refine .inr ⟨hfits, ?_, ?_⟩
      · rcases he with he | ⟨he, hclosing⟩ | ⟨kind, he⟩
        · cases he
        · cases he
          exact .closed hclosing
        · cases he
          exact .io kind
      · rcases hw₁ with rfl | rfl
        · exact .refl _
        · exact .drained _

/-- What a call that writes returns: it is done, or an error that blames nobody. -/
def Mute {α : Type} (r : Except Error α) : Prop := ∀ e, r = .error e → e.Fair

theorem Ended.mute {α : Type} {r : Except Error α} (h : Ended w r) : Mute r := by
  rintro e rfl
  exact fair_of_ended h

/-- **A message is written** to an active connection. -/
theorem Speech.ensures_writeFrame (h : Speech side cause w said) (hm : Sendable m f)
    (hcause : cause m) (hstate : w.context.state = .active) (hclose : f.isClose = false) :
    (writeFrame f).Ensures w fun r w' ↦
      Adds side cause said w (if isRefusal r then [] else [m]) w' ∧ Mute r := by
  have hnext : ∀ a : Unit, Flushes ((fun _ ↦ _write none >>= fun flushNow ↦
      if flushNow then flush else (Pure.pure () : Io Unit)) a) := by
    intro _
    refine flushes_write.bind fun flushNow ↦ ?_
    cases flushNow with
    | true => exact flushes_flush
    | false => exact Flushes.pure ()
  have hattempt : writeFrame f = bufferFrame f >>= fun _ ↦ _write none >>= fun flushNow ↦
      if flushNow then flush else (Pure.pure () : Io Unit) := by
    show (_write (some f) >>= _) = _
    rw [write_some, bind_assoc]
  rw [hattempt]
  refine (ensures_bufferFrame_bind hnext f w).mono ?_
  rintro r w' (⟨-, rfl, rfl⟩ | ⟨-, hended, hw'⟩)
  · refine ⟨h.adds_flushed (.drawMask w), ?_⟩
    rintro e ⟨⟩
    trivial
  · rw [hended.isRefusal]
    have hgoes := goes_masked w f
    rw [h.role] at hgoes
    refine ⟨h.adds_buffered (.message ⟨f, hm, hgoes⟩) hcause (h.once.active hstate) ?_ hw',
      hended.mute⟩
    rw [hclose]
    rintro ⟨⟩

/-- A call that flushes. -/
theorem Speech.ensures_flushes {α : Type} {n : Io α} (h : Speech side cause w said)
    (hn : Flushes n) :
    n.Ensures w fun r w' ↦ Adds side cause said w [] w' ∧ Mute r ∧ isRefusal r = false :=
  (hn w).mono fun _ _ hw ↦ ⟨h.adds_flushed hw.1, hw.2.mute, hw.2.isRefusal⟩

/-- **A pong is written** to an active connection. -/
theorem Speech.ensures_writePong (h : Speech side cause w said) {b : Bytes} (hb : b.length ≤ 125)
    (hcause : cause (.pong b)) :
    (setAdditional (.pong b) false >>= fun _ ↦ _write none >>= fun _ ↦
      (Pure.pure () : Io Unit)).Ensures w fun r w' ↦
        Adds side cause said w [] w' ∧ Mute r ∧ isRefusal r = false := by
  have hn : Flushes (_write none >>= fun _ ↦ (Pure.pure () : Io Unit)) :=
    flushes_write.bind fun _ ↦ Flushes.pure ()
  rw [EStateM.Ensures, EStateM.attempt_bind_ok (attempt_setAdditional _ _ w)]
  split
  · have hset := h.setAdditionalSend (.pong hb .same) hcause (by rintro ⟨⟩) false
    have hflushed := hset.ensures_flushes hn
    rw [EStateM.Ensures] at hflushed
    obtain ⟨hadds, hrest⟩ := hflushed
    exact ⟨⟨hadds.speech, hadds.input, hadds.canRead, hadds.peerClosed⟩, hrest⟩
  · exact h.ensures_flushes hn

/-- **A connection is closed**: an active one puts a Close frame out if it has a code and room. -/
theorem Speech.ensures_close (h : Speech side cause w said) {code : Option CloseFrame}
    (hcode : ∀ c ∈ code, c.Short) (hcause : ∀ c ∈ code, cause (.close (some c))) :
    (close code).Ensures w fun r w' ↦ Adds side cause said w [] w' ∧ Mute r := by
  refine EStateM.Ensures.get_bind (EStateM.Ensures.ite ?_ ?_)
  · intro hstate
    have hclosing : Speech side cause (w.setState .closedByUs) said := h.setState (by rintro ⟨⟩)
    have hadds : ∀ {w'}, Adds side cause said (w.setState .closedByUs) [] w' →
        Adds side cause said w [] w' := by
      intro w' hadds
      refine ⟨hadds.speech, hadds.input, fun _ ↦ canRead_iff.2 (.inl hstate), fun hclosed ↦ ?_⟩
      cases hadds.peerClosed hclosed
    refine EStateM.Ensures.set_bind ?_
    cases code with
    | none =>
        refine (hclosing.ensures_flushes (flushes_write.bind fun _ ↦ flushes_flush)).mono ?_
        exact fun _ _ hw ↦ ⟨hadds hw.1, hw.2.1⟩
    | some c =>
        obtain ⟨f, hf⟩ : ∃ f, Frame.close (some c) = some f := ⟨_, rfl⟩
        have hnext : ∀ a : Unit, Flushes ((fun _ ↦ _write none >>= fun _ ↦ flush) a) :=
          fun _ ↦ flushes_write.bind fun _ ↦ flushes_flush
        rw [hf, write_some, bind_assoc]
        refine (ensures_bufferFrame_bind hnext f _).mono ?_
        rintro r w' (⟨-, rfl, rfl⟩ | ⟨-, hended, hw'⟩)
        · refine ⟨hadds (hclosing.adds_flushed (.drawMask _)), ?_⟩
          rintro e ⟨⟩
          trivial
        · have hgoes := goes_masked (w.setState .closedByUs) f
          rw [hclosing.role] at hgoes
          have hbuffered := hclosing.adds_buffered (.close (hcode c rfl) hf hgoes)
            (hcause c rfl) (h.once.active hstate) (fun _ ↦ by rintro ⟨⟩) hw'
          exact ⟨hadds ⟨hbuffered.speech, hbuffered.input, hbuffered.canRead,
            hbuffered.peerClosed⟩, hended.mute⟩
  · exact fun _ ↦ (h.ensures_flushes flushes_flush).mono fun _ _ hw ↦ ⟨hw.1, hw.2.1⟩

theorem Adds.congr {ms ms' : List Message} (h : Adds side cause said w ms w')
    (hms : ms'.filter Message.ordered = ms.filter Message.ordered) :
    Adds side cause said w ms' w' :=
  ⟨h.speech.imp fun _ hmore ↦ ⟨hmore.1, hmore.2.trans hms.symm⟩, h.input, h.canRead, h.peerClosed⟩

/-- A call that writes returns no message. -/
theorem ensures_mute {n : Io Unit} (ms : Except Error (Option Message) → List Message)
    (h : n.Ensures w fun r w' ↦
      Adds side cause said w (ms (r.map fun _ ↦ none)) w' ∧ Mute r) :
    (n >>= fun _ ↦ (Pure.pure none : Io (Option Message))).Ensures w fun r w' ↦
      Adds side cause said w (ms r) w' ∧ Mute r ∧ ∀ m, r ≠ .ok (some m) := by
  refine ensures_unit (h.mono ?_)
  rintro r w' ⟨hadds, hmute⟩
  cases r with
  | ok a => exact ⟨hadds, by rintro e ⟨⟩, by rintro m ⟨⟩⟩
  | error e =>
      refine ⟨hadds, ?_, by rintro m ⟨⟩⟩
      rintro _ ⟨⟩
      exact hmute e rfl

/-- **A message is written**, or it is refused because the connection is not active. -/
theorem Speech.ensures_writeMessage (h : Speech side cause w said) {m : Message}
    (hwrite : w.context.state = .active → (WebSocket.write m).Ensures w fun r w' ↦
      Adds side cause said w (accepted (.write m) r).toList w' ∧ Mute r) :
    (WebSocket.write m).Ensures w fun r w' ↦
      Adds side cause said w (accepted (.write m) r).toList w' ∧ Mute r := by
  by_cases hstate : w.context.state = .active
  · exact hwrite hstate
  · obtain ⟨e, he, hattempt⟩ := attempt_write_inactive hstate m
    rw [EStateM.Ensures, hattempt]
    rcases he with rfl | rfl
    · refine ⟨h.adds_flushed (.refl w), ?_⟩
      rintro _ ⟨⟩
      trivial
    · refine ⟨h.adds_flushed (.refl w), ?_⟩
      rintro _ ⟨⟩
      trivial

theorem isRefusal_map {α β : Type} (g : α → β) (r : Except Error α) :
    isRefusal (r.map g) = isRefusal r := by
  cases r with
  | ok a => rfl
  | error e => rfl

/-- A data message or a ping is written. -/
theorem Speech.ensures_ordered (h : Speech side cause w said) (hm : Sendable m f)
    (hcause : cause m) (hclose : f.isClose = false)
    (hattempt : w.context.state = .active →
      (WebSocket.write m).attempt w = (writeFrame f).attempt w) :
    (WebSocket.write m).Ensures w fun r w' ↦
      Adds side cause said w (accepted (.write m) r).toList w' ∧ Mute r := by
  refine h.ensures_writeMessage fun hstate ↦ ?_
  refine EStateM.Ensures.of_attempt (hattempt hstate) ?_
  refine (h.ensures_writeFrame hm hcause hstate hclose).mono ?_
  rintro r w' ⟨hadds, hmute⟩
  refine ⟨hadds.congr ?_, hmute⟩
  rw [accepted]
  cases isRefusal r with
  | true => rfl
  | false => rfl

/-- What has been added stays when more is flushed. -/
theorem Adds.flushed {ms : List Message} {w'' : WebSocket} (h : Adds side cause said w ms w')
    (hw : Flushed w' w'') : Adds side cause said w ms w'' := by
  obtain ⟨more, hspeech, hmore⟩ := h.speech
  obtain ⟨more', hspeech', hmore'⟩ := hspeech.flushed hw
  refine ⟨⟨more ++ more', ?_, ?_⟩, hw.input.trans h.input, fun hr ↦ h.canRead (hw.canRead hr),
    fun hc ↦ h.peerClosed (hw.peerClosed hc)⟩
  · rw [← List.append_assoc]
    exact hspeech'
  · rw [List.map_append, List.filter_append, hmore, hmore', List.append_nil]

/-- What has been added does not depend on the answers to come. -/
theorem Adds.answered {ms : List Message} {answers : Answers}
    (h : Adds side cause said (w.answered answers) ms w') (answers' : Answers) :
    Adds side cause said (w.answered answers') ms (w'.answered answers') := by
  have hinput := congrArg (fun i : Input ↦ { i with reads := answers'.reads }) h.input
  exact ⟨h.speech.imp fun _ hmore ↦ ⟨hmore.1.answered answers', hmore.2⟩, hinput, h.canRead,
    h.peerClosed⟩

/-- **A binary is sent**: it is written, and what is in the buffer is flushed. -/
theorem Speech.ensures_send (h : Speech side cause w said) {b : Bytes} (hb : b.length ≤ 16 <<< 20)
    (hcause : cause (.binary b)) :
    (send (.binary b)).Ensures w fun r w' ↦
      Adds side cause said w (accepted (.write (.binary b)) r).toList w' ∧ Mute r := by
  have hwrite := h.ensures_ordered (.binary hb) hcause rfl (attempt_write_active · _)
  refine EStateM.Ensures.bind hwrite ?_ fun _ _ hw ↦ hw
  rintro _ w₁ ⟨hadds, -⟩
  refine (flushes_flush w₁).mono ?_
  rintro r w' ⟨hflushed, hended⟩
  refine ⟨(hadds.flushed hflushed).congr ?_, hended.mute⟩
  rw [accepted, hended.isRefusal]
  rfl

/-- **What a call that writes does.** -/
theorem Speech.ensures_call (h : Speech side cause w said) {c : Call} (hc : Polite c)
    (hread : c ≠ .read) (hordered : ∀ m, m.ordered = true → cause m)
    (hpong : ∀ b, c = .write (.pong b) → cause (.pong b))
    (hclose : ∀ code, Closes code c → ∀ c' ∈ code, cause (.close (some c'))) :
    (call u c).Ensures w fun r w' ↦ Adds side cause said w (accepted c r).toList w' ∧ Mute r ∧
      ∀ m, r ≠ .ok (some m) := by
  have hwrite : ∀ {m : Message}, ((WebSocket.write m).Ensures w fun r w' ↦
      Adds side cause said w (accepted (.write m) r).toList w' ∧ Mute r) →
      (call u (.write m)).Ensures w fun r w' ↦
        Adds side cause said w (accepted (.write m) r).toList w' ∧ Mute r ∧
          ∀ m, r ≠ .ok (some m) := by
    intro m hm
    refine ensures_mute (fun r ↦ (accepted (.write m) r).toList) (hm.mono ?_)
    intro r w' hw'
    rw [accepted, isRefusal_map]
    exact hw'
  cases hc with
  | read => exact absurd rfl hread
  | flush =>
      refine ensures_mute (fun r ↦ (accepted .flush r).toList) ?_
      exact (h.ensures_flushes flushes_flush).mono fun _ _ hw ↦ ⟨hw.1, hw.2.1⟩
  | @write m f hm =>
      refine hwrite ?_
      cases hm with
      | text hs =>
          exact h.ensures_ordered (.text hs) (hordered _ rfl) rfl (attempt_write_active · _)
      | binary hb =>
          exact h.ensures_ordered (.binary hb) (hordered _ rfl) rfl (attempt_write_active · _)
      | ping hb =>
          exact h.ensures_ordered (.ping hb) (hordered _ rfl) rfl (attempt_write_active · _)
      | pong hb =>
          refine h.ensures_writeMessage fun hstate ↦ ?_
          refine EStateM.Ensures.of_attempt (attempt_write_active hstate _) ?_
          refine (h.ensures_writePong hb (hpong _ rfl)).mono ?_
          rintro r w' ⟨hadds, hmute, hrefusal⟩
          refine ⟨hadds.congr ?_, hmute⟩
          rw [accepted, hrefusal]
          rfl
  | @close code _ hcode hcloses =>
      have hensures := h.ensures_close hcode (hclose _ hcloses)
      cases hcloses with
      | close => exact ensures_mute (fun r ↦ (accepted (.close code) r).toList) hensures
      | write =>
          refine hwrite (h.ensures_writeMessage fun hstate ↦ ?_)
          refine EStateM.Ensures.of_attempt (attempt_write_active hstate _) (hensures.mono ?_)
          rintro r w' ⟨hadds, hmute⟩
          refine ⟨hadds.congr ?_, hmute⟩
          rw [accepted]
          cases isRefusal r with
          | true => rfl
          | false => rfl

end Adds

end WebSocket

end Ws

end MessageIo
