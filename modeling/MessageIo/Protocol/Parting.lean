import MessageIo.Protocol.Dialogue

/-!
# How two sides part

A side that is asked to close says so with a Close frame, and the other answers with one.  A Close
without a code puts nothing out, a frame may have no room, and a stream may end before its time;
these are the ways in which a side fails to do its part (`Disturbs`).

If none of them has happened, both sides agree as soon as there is nothing left to be read or put
out: neither has been asked to close, or each has put out its Close frame and heard the other's
(`closing_agrees`).
-/

namespace MessageIo

namespace Ws

open Transition

namespace WebSocket

variable {u : Utf8Crate} {w w' : WebSocket} {f : Frame} {c : Call}

/-! ## Calls that write -/

/-- **A side does not do its part**: it is closed without a code, there is no room for a frame, or
its stream ends although the other side has not closed. -/
inductive Disturbs : Call × Except Error (Option Message) → Prop
  | codeless {c : Call} {r : Except Error (Option Message)} (h : Closes none c) : Disturbs (c, r)
  | full {c : Call} {m : Message} : Disturbs (c, .error (.writeBufferFull m))
  | reset {c : Call} : Disturbs (c, .error (.protocol .resetWithoutClosingHandshake))

/-- **What a call that writes does to the closing handshake.** -/
inductive Parts (w : WebSocket) (c : Call) :
    Except Error (Option Message) → WebSocket → Prop
  | disturbed {r : Except Error (Option Message)} {w' : WebSocket} (h : Disturbs (c, r)) :
      Parts w c r w'
  | flushed {r : Except Error (Option Message)} {w' : WebSocket} (h : Flushed w w')
      (hclose : ∀ code, Closes code c → w.context.state ≠ .active) : Parts w c r w'
  | active {r : Except Error (Option Message)} {w' : WebSocket}
      (hold : w.context.state = .active) (h : w'.context.state = .active)
      (hclose : ∀ code, ¬ Closes code c) : Parts w c r w'
  | closes {r : Except Error (Option Message)} {w' : WebSocket}
      (h : w'.context.state = .closedByUs) (hcloses : w'.closes = 1) : Parts w c r w'

/-- Who is not closing stays so when something is flushed. -/
theorem Flushed.state_eq (h : Flushed w w') (hread : w.context.state.canRead = true) :
    w'.context.state = w.context.state := by
  rcases h.state with hstate | ⟨-, hno⟩
  · exact hstate
  · cases hread.symm.trans hno

/-- A frame that does not close is written to an active connection. -/
theorem parts_writeFrame (hstate : w.context.state = .active) (hclose : ∀ code, ¬ Closes code c) :
    (writeFrame f).Ensures w fun r w' ↦ Parts w c (r.map fun _ ↦ none) w' := by
  refine (ensures_writeFrame f w).mono ?_
  rintro r w' (⟨-, ⟨message, rfl⟩, -⟩ | ⟨-, hw'⟩)
  · exact .disturbed .full
  · refine .active hstate ((hw'.state_eq ?_).trans hstate) hclose
    exact canRead_iff.2 (.inl hstate)

/-- A pong is written to an active connection. -/
theorem parts_writePong {b : Bytes} (hstate : w.context.state = .active)
    (hclose : ∀ code, ¬ Closes code c) :
    (setAdditional (.pong b) false >>= fun _ ↦ _write none >>= fun _ ↦
      (Pure.pure () : Io Unit)).Ensures w fun r w' ↦ Parts w c (r.map fun _ ↦ none) w' := by
  have hn : Flushes (_write none >>= fun _ ↦ (Pure.pure () : Io Unit)) :=
    flushes_write.bind fun _ ↦ Flushes.pure ()
  have hparts : ∀ {w₁ : WebSocket}, w₁.context.state = .active →
      (_write none >>= fun _ ↦ (Pure.pure () : Io Unit)).Ensures w₁ fun r w' ↦
        Parts w c (r.map fun _ ↦ none) w' := by
    intro w₁ hstate₁
    refine (hn w₁).mono fun r w' hw' ↦ ?_
    exact .active hstate ((hw'.1.state_eq (canRead_iff.2 (.inl hstate₁))).trans hstate₁) hclose
  rw [EStateM.Ensures, EStateM.attempt_bind_ok (attempt_setAdditional _ _ w)]
  split
  · exact hparts hstate
  · exact hparts hstate

/-- **A connection is closed**: an active one puts out a Close frame, if it has a code and room. -/
theorem parts_close (honce : Once w) {code : Option CloseFrame} (hcloses : Closes code c) :
    (close code).Ensures w fun r w' ↦ Parts w c (r.map fun _ ↦ none) w' := by
  refine EStateM.Ensures.get_bind (EStateM.Ensures.ite ?_ ?_)
  · intro hstate
    refine EStateM.Ensures.set_bind ?_
    cases code with
    | none =>
        refine ((flushes_write.bind fun _ ↦ flushes_flush) _).mono ?_
        exact fun _ _ _ ↦ .disturbed (.codeless hcloses)
    | some c' =>
        obtain ⟨f, hf⟩ : ∃ f, Frame.close (some c') = some f := ⟨_, rfl⟩
        have hnext : ∀ a : Unit, Flushes ((fun _ ↦ _write none >>= fun _ ↦ flush) a) :=
          fun _ ↦ flushes_write.bind fun _ ↦ flushes_flush
        rw [hf, write_some, bind_assoc]
        refine (ensures_bufferFrame_bind hnext f _).mono ?_
        rintro r w' (⟨-, rfl, -⟩ | ⟨-, -, hw'⟩)
        · exact .disturbed .full
        · refine .closes (hw'.state_eq rfl) ?_
          rw [hw'.closes, closes_buffered, if_pos (close_spec hf).1]
          exact congrArg Nat.succ (honce.active hstate)
  · intro hstate
    exact (flushes_flush w).mono fun _ _ hw ↦ .flushed hw.1 fun _ _ ↦ hstate

/-- **What a call that writes does.** -/
theorem ensures_parts (honce : Once w) (hc : Polite c) (hread : c ≠ .read) :
    (call u c).Ensures w (Parts w c) := by
  have hwrite : ∀ {m : Message}, (w.context.state = .active →
      (WebSocket.write m).Ensures w fun r w' ↦ Parts w (.write m) (r.map fun _ ↦ none) w') →
      (call u (.write m)).Ensures w (Parts w (.write m)) := by
    intro m hm
    refine ensures_unit ?_
    by_cases hstate : w.context.state = .active
    · exact hm hstate
    · obtain ⟨e, -, hattempt⟩ := attempt_write_inactive hstate m
      rw [EStateM.Ensures, hattempt]
      exact .flushed (.refl w) fun _ _ ↦ hstate
  cases hc with
  | read => exact absurd rfl hread
  | flush =>
      refine ensures_unit ((flushes_flush w).mono fun _ _ hw ↦ .flushed hw.1 ?_)
      rintro _ ⟨⟩
  | @write m f hm =>
      refine hwrite fun hstate ↦ EStateM.Ensures.of_attempt (attempt_write_active hstate m) ?_
      cases hm with
      | text | binary | ping => exact parts_writeFrame hstate (by rintro _ ⟨⟩)
      | pong => exact parts_writePong hstate (by rintro _ ⟨⟩)
  | @close code _ hcode hcloses =>
      have hparts := parts_close honce hcloses
      cases hcloses with
      | close => exact ensures_unit hparts
      | write =>
          refine hwrite fun hstate ↦ ?_
          exact EStateM.Ensures.of_attempt (attempt_write_active hstate _) hparts

namespace Dialogue

/-! ## The invariant -/

variable {j : Journal} {a : Except Error (Option Message)}

/-- Nothing has kept a side from doing its part. -/
def Undisturbed (j : Journal) : Prop := ∀ entry ∈ j, ¬ Disturbs entry

/-- **A side does its part**: who has been asked to close is not active, who is not active has said
so, and who cannot read has heard the other's Close. -/
structure Parting (w : WebSocket) (j : Journal) : Prop where
  asked : ∀ code c, Closes code c → c ∈ j.calls → w.context.state ≠ .active
  said : w.context.state ≠ .active → w.closes = 1
  heard : w.context.state.canRead = false → ∃ c, .close c ∈ j.heard

theorem not_active_of_flushed (h : Flushed w w') :
    w'.context.state ≠ .active ↔ w.context.state ≠ .active := by
  rcases h.state with hstate | ⟨hend, hno⟩
  · rw [hstate]
  · refine ⟨fun _ hactive ↦ ?_, fun _ hactive ↦ ?_⟩
    · rw [hactive] at hno
      cases hno
    · cases hend.symm.trans hactive

/-- Something is flushed. -/
theorem Parting.flushed (h : Parting w j) (hw : Flushed w w') : Parting w' j := by
  refine ⟨fun code c hc hmem ↦ (not_active_of_flushed hw).2 (h.asked code c hc hmem), ?_, ?_⟩
  · rw [hw.closes]
    exact fun hactive ↦ h.said ((not_active_of_flushed hw).1 hactive)
  · intro hread
    refine h.heard (Bool.eq_false_iff.2 fun hread' ↦ ?_)
    rw [hw.state_eq hread', hread'] at hread
    cases hread

/-- A call goes into the journal. -/
theorem Parting.concat (h : Parting w j)
    (hclose : ∀ code, Closes code c → w.context.state ≠ .active) :
    Parting w (j ++ [(c, a)]) := by
  refine ⟨fun code c' hc hmem ↦ ?_, h.said, fun hread ↦ ?_⟩
  · rw [Journal.calls, List.map_append, List.mem_append] at hmem
    rcases hmem with hmem | hmem
    · exact h.asked code c' hc hmem
    · rw [List.map_singleton, List.mem_singleton] at hmem
      subst hmem
      exact hclose code hc
  · exact (h.heard hread).imp fun _ ↦ Journal.mem_heard (List.prefix_append _ _)

/-- **A call that writes.** -/
theorem Parting.parts (h : Parting w j) (hw : Parts w c a w')
    (hj : Undisturbed (j ++ [(c, a)])) : Parting w' (j ++ [(c, a)]) := by
  cases hw with
  | disturbed hdisturbs =>
      exact absurd hdisturbs (hj _ (List.mem_append_right _ List.mem_cons_self))
  | flushed hw hclose =>
      exact (h.flushed hw).concat fun code hc ↦ (not_active_of_flushed hw).2 (hclose code hc)
  | active hold hactive hclose =>
      refine Parting.concat ⟨fun code c' hc hmem ↦ ?_, fun hno ↦ ?_, fun hread ↦ ?_⟩ ?_
      · exact absurd hold (h.asked code c' hc hmem)
      · exact absurd hactive hno
      · rw [hactive] at hread
        cases hread
      · exact fun code hc ↦ absurd hc (hclose code)
  | closes hstate hcloses =>
      have hno : w'.context.state ≠ .active := by
        rw [hstate]
        rintro ⟨⟩
      refine Parting.concat ⟨fun _ _ _ _ ↦ hno, fun _ ↦ hcloses, fun hread ↦ ?_⟩ fun _ _ ↦ hno
      rw [hstate] at hread
      cases hread

/-- A Close frame that answers one waits to be put out. -/
theorem closes_answeredBy {side : Role} {cause : Message → Prop} {said : List (Message × Frame)}
    (hs : Speech side cause w said) (hactive : w.context.state = .active)
    (hf : f.isClose = true) : ((w.setState .closedByPeer).answeredBy f).closes = 1 := by
  have hnone : w.socket.queued.countP (·.isClose) = 0 ∧
      w.context.additionalSend.toList.countP (·.isClose) = 0 :=
    Nat.add_eq_zero_iff.1 (hs.once.active hactive)
  have hpong : w.context.additionalSend.all (·.isPong) = true := by
    cases hadditional : w.context.additionalSend with
    | none => rfl
    | some g =>
        obtain ⟨m, hm, -⟩ := hs.utters g hadditional
        rcases hm.kind.2.1 with hpong | hclose
        · exact hpong
        · have hno := hnone.2
          rw [hadditional, Option.toList_some, List.countP_singleton, if_pos hclose] at hno
          cases hno
  have hset : (w.setState .closedByPeer).answeredBy f =
      (w.setState .closedByPeer).setAdditionalSend (some f) true := if_pos hpong
  rw [hset]
  show w.socket.queued.countP (·.isClose) + [f].countP (·.isClose) = 1
  rw [hnone.1, List.countP_singleton, if_pos hf]

/-- **A message is heard**, and perhaps answered. -/
theorem Parting.heeds {side : Role} {cause : Message → Prop} {said : List (Message × Frame)}
    {m : Message} (h : Parting w j) (hs : Speech side cause w said) (hw : Heeds w m w') :
    Parting w' (j ++ [(.read, .ok (some m))]) := by
  have hno : ∀ {w₁ : WebSocket} (code : Option CloseFrame), Closes code .read →
      w₁.context.state ≠ .active := by
    rintro w₁ code ⟨⟩
  have hheard : ∀ {c}, m = .close c →
      ∃ c, .close c ∈ Journal.heard (j ++ [(.read, .ok (some m))]) := by
    rintro c rfl
    rw [Journal.heard_concat]
    exact ⟨c, List.mem_append_right _ List.mem_cons_self⟩
  cases hw with
  | message => exact h.concat hno
  | late => exact h.concat hno
  | @ping b hb hactive =>
      have hstate : (w.answeredBy (.pong b)).context.state = .active :=
        (state_answeredBy _ w).trans hactive
      refine Parting.concat ⟨fun code c hc hmem ↦ ?_, fun hnot ↦ ?_, fun hread ↦ ?_⟩ hno
      · exact absurd hactive (h.asked code c hc hmem)
      · exact absurd hstate hnot
      · rw [hstate] at hread
        cases hread
  | @closed c reply hc hactive hreply =>
      have hstate : ((w.setState .closedByPeer).answeredBy reply).context.state = .closedByPeer :=
        state_answeredBy reply _
      refine ⟨fun _ _ _ _ ↦ ?_, fun _ ↦ ?_, fun _ ↦ hheard rfl⟩
      · rw [hstate]
        rintro ⟨⟩
      · exact closes_answeredBy hs hactive (close_spec hreply).1
  | acknowledged hstate =>
      refine ⟨fun _ _ _ _ ↦ by rintro ⟨⟩, fun _ ↦ ?_, fun _ ↦ hheard rfl⟩
      refine h.said ?_
      rw [hstate]
      rintro ⟨⟩

/-- **A call of `read`.** -/
theorem Parting.readsOn {side : Role} {cause : Message → Prop} {said : List (Message × Frame)}
    {w₁ : WebSocket} {tail : Bytes} {coming : List (Message × Frame)} {a : Except Error Message}
    (h : Parting w j) (hs : Speech side cause w said) (hw : Flushed w w₁)
    (hr : ReadsOn tail coming w₁ a w') (hj : Undisturbed (j ++ [(.read, a.map some)])) :
    Parting w' (j ++ [(.read, a.map some)]) := by
  have h₁ := h.flushed hw
  obtain ⟨more, hs₁, -⟩ := hs.flushed hw
  have hreceived : Parting w₁.received j := ⟨h₁.asked, h₁.said, h₁.heard⟩
  cases hr with
  | stops => exact h₁.concat (by rintro _ ⟨⟩)
  | refuses => exact hreceived.concat (by rintro _ ⟨⟩)
  | takes hx hread hhears hheeds => exact hreceived.heeds hs₁.received hheeds
  | waits he hw' =>
      rcases hw' with rfl | ⟨rfl, rfl | hno⟩
      · exact hreceived.concat (by rintro _ ⟨⟩)
      · exact absurd .reset (hj _ (List.mem_append_right _ List.mem_cons_self))
      · refine Parting.concat ⟨fun _ _ _ _ ↦ by rintro ⟨⟩, fun _ ↦ h₁.said ?_, fun _ ↦ h₁.heard hno⟩
          (by rintro _ ⟨⟩)
        intro hactive
        rw [hactive] at hno
        cases hno

/-! ## Runs -/

variable {p q : Party} {r : Role} {said answer : List (Message × Frame)} {d d' d₀ : Dialogue}

/-- **A side acts**, and does its part. -/
theorem parting_performed (hu : u.Lawful) {answers : Answers} (h : Follows r p q said answer)
    (hq : Follows r.other q p answer said) (hc : Polite c)
    (hreads : FrameCodec.given answers.reads <+: q.socket.socket.written.drop p.taken)
    (hp : Undisturbed p.journal → Parting p.socket p.journal)
    (hj : Undisturbed (performed u p c answers).journal) :
    Parting (performed u p c answers).socket (performed u p c answers).journal := by
  have hparting := hp fun entry hentry ↦ hj entry (List.mem_append_left _ hentry)
  have hanswered : Parting (p.socket.answered answers) p.journal :=
    ⟨hparting.asked, hparting.said, hparting.heard⟩
  have hspeech := h.speech.answered answers
  by_cases hread : c = .read
  · subst hread
    obtain ⟨used, tail, read, skipped, rest, hl⟩ := h.listens hu hq hreads
    obtain ⟨w₁, hw, hr⟩ := hl.reads
    have hperformed : performed u p .read answers = _ := performed_eq (attempt_call_read _) hl.taken
    rw [hperformed] at hj ⊢
    exact hanswered.readsOn hspeech hw hr hj
  · have hparts := ensures_parts (u := u) hspeech.once hc hread
    exact hanswered.parts hparts hj

/-- **The invariant**: the sides follow each other, and each does its part. -/
theorem parting_reach (hu : u.Lawful) (h₀ : Opened d₀) (h : Reach (step u) Allowed d₀ d) :
    (∃ talk : Role → List (Message × Frame),
      ∀ r, Follows r (d r) (d r.other) (talk r) (talk r.other)) ∧
      ∀ r, Undisturbed (d r).journal → Parting (d r).socket (d r).journal := by
  refine h.invariant (P := fun d ↦ (∃ talk : Role → List (Message × Frame),
    ∀ r, Follows r (d r) (d r.other) (talk r) (talk r.other)) ∧
      ∀ r, Undisturbed (d r).journal → Parting (d r).socket (d r).journal)
    ⟨⟨_, follows_opened h₀⟩, fun r _ ↦ ?_⟩ ?_
  · obtain ⟨answers, config, hsocket, -⟩ := h₀.new r
    obtain ⟨frame, -, hw⟩ := fromPartiallyRead_ok hsocket
    have hactive : (d₀ r).socket.context.state = .active := by rw [hw]
    refine ⟨fun _ _ _ hmem ↦ ?_, fun hno ↦ absurd hactive hno, fun hread ↦ ?_⟩
    · rw [h₀.journal r] at hmem
      cases hmem
    · rw [hactive] at hread
      cases hread
  · rintro d d' ⟨r, act⟩ ⟨⟨talk, hfollows⟩, hparting⟩ ha hd
    refine ⟨follows_step hu hfollows ha hd, fun s ↦ ?_⟩
    cases hd
    rcases r.eq_or_other s with rfl | rfl
    · rw [Function.update_self]
      have hother := hfollows s.other
      rw [s.other_other] at hother
      cases ha with
      | call hpolite hreads =>
          exact parting_performed hu (hfollows s) hother hpolite hreads (hparting s)
      | joins =>
          intro hj
          have hold := hparting s hj
          exact ⟨hold.asked, hold.said, hold.heard⟩
    · rw [Function.update_of_ne r.other_ne]
      exact hparting r.other

/-- **A side is quiet**: it has taken and read all that the other has put out, and nothing of its
own waits. -/
structure Quiet (d : Dialogue) (r : Role) : Prop where
  taken : (d r).taken = (d r.other).socket.output.length
  inBuffer : (d r).socket.context.frame.inBuffer = []
  header : (d r).socket.context.frame.header = none
  additional : (d r).socket.context.additionalSend = none

/-- Who is quiet and can read has heard no Close frame, because there is none. -/
theorem isClose_of_quiet (h : Follows r (d r) (d r.other) said answer) (hquiet : Quiet d r)
    (hread : (d r).socket.context.state.canRead = true) : ∀ x ∈ answer, x.2.isClose = false := by
  obtain ⟨read, skipped, rest, rfl, hhearing⟩ := h.hearing
  have hcoming := hhearing.coming
  rw [hquiet.taken, List.drop_length] at hcoming
  have hrest : rest = [] :=
    List.map_eq_nil_iff.1 (hcoming.eq_nil hquiet.header hquiet.inBuffer)
  obtain ⟨rfl, hno⟩ := hhearing.canRead hread
  rw [hrest, List.append_nil, List.append_nil]
  exact hno

/-- **Both sides agree about the closing handshake** when nothing is left to be read or put out, and
nothing has kept them from doing their part: neither has been asked to close, or each has put out
one Close frame and heard the other's. -/
theorem closing_agrees (hu : u.Lawful) (h₀ : Opened d₀) (h : Reach (step u) Allowed d₀ d)
    (hj : ∀ r, Undisturbed (d r).journal) (hquiet : ∀ r, Quiet d r) :
    (∀ r, (d r).socket.context.state = .active ∧
        ∀ code c, Closes code c → c ∉ (d r).journal.calls) ∨
      ∀ r, (d r).socket.context.state.canRead = false ∧
        (d r).socket.socket.queued.countP (·.isClose) = 1 ∧
          ∃ c, .close c ∈ (d r).journal.heard := by
  obtain ⟨⟨talk, hfollows⟩, hall⟩ := parting_reach hu h₀ h
  have hparting : ∀ r, Parting (d r).socket (d r).journal := fun r ↦ hall r (hj r)
  have hqueued : ∀ r, (d r).socket.context.state ≠ .active →
      (d r).socket.socket.queued.countP (·.isClose) = 1 := by
    intro r hactive
    have hcloses := (hparting r).said hactive
    rw [closes, (hquiet r).additional] at hcloses
    exact hcloses
  -- The Close frame of one side has been read by the other.
  have hother : ∀ r, (d r).socket.context.state ≠ .active →
      (d r.other).socket.context.state.canRead = false := by
    intro r hactive
    have hq := hfollows r.other
    rw [r.other_other] at hq
    rw [Bool.eq_false_iff]
    intro hread
    have hno := isClose_of_quiet (d := d) (r := r.other) (by rwa [r.other_other]) (hquiet r.other)
      hread
    have hone := hqueued r hactive
    rw [(hfollows r).speech.queued, List.countP_eq_zero.2] at hone
    · cases hone
    · intro f hf
      obtain ⟨x, hx, rfl⟩ := List.mem_map.1 hf
      rw [hno x hx]
      exact Bool.false_ne_true
  have hnot : ∀ r, (d r).socket.context.state.canRead = false →
      (d r).socket.context.state ≠ .active := by
    intro r hread hactive
    rw [hactive] at hread
    cases hread
  by_cases hsome : ∃ r, (d r).socket.context.state ≠ .active
  · obtain ⟨r, hactive⟩ := hsome
    have hr := hother r.other (hnot r.other (hother r hactive))
    rw [r.other_other] at hr
    have hread : ∀ s, (d s).socket.context.state.canRead = false := by
      intro s
      rcases r.eq_or_other s with rfl | rfl
      · exact hr
      · exact hother r hactive
    exact .inr fun s ↦ ⟨hread s, hqueued s (hnot s (hread s)), (hparting s).heard (hread s)⟩
  · refine .inl fun r ↦ ?_
    have hactive : (d r).socket.context.state = .active := by
      by_contra hno
      exact hsome ⟨r, hno⟩
    exact ⟨hactive, fun code c hc hmem ↦ (hparting r).asked code c hc hmem hactive⟩

/-- A client closes the connection, and the server answers. -/
theorem reach_closed : ∃ d, Reach (step .reference) Allowed silent d ∧
    (d .client).journal =
      [(.close (some ⟨.normal, []⟩), .ok none), (.read, .ok (some (.close (some ⟨.normal, []⟩))))] ∧
    (d .server).journal =
      [(.read, .ok (some (.close (some ⟨.normal, []⟩)))), (.read, .error .connectionClosed)] ∧
    ∀ r, Quiet d r := by
  have hshort : ∀ c ∈ some (⟨.normal, []⟩ : CloseFrame), c.Short := by
    rintro _ ⟨⟩
    exact Nat.zero_le _
  have h₀ : Reach (step .reference) Allowed silent silent := .refl
  have h₁ := h₀.tail (a := (.client, .call (.close (some ⟨.normal, []⟩)) ⟨[], [.ok 8], [], []⟩))
    (.call (.close hshort .close) ⟨_, rfl⟩) rfl
  have h₂ := h₁.tail
    (a := (.server, .call .read ⟨[.ok [0x88, 0x82, 0, 0, 0, 0, 0x03, 0xE8]], [], [], []⟩))
    (.call .read ⟨_, rfl⟩) rfl
  have h₃ := h₂.tail (a := (.server, .call .read ⟨[], [.ok 4], [], []⟩))
    (.call .read ⟨_, rfl⟩) rfl
  have h₄ := h₃.tail (a := (.client, .call .read ⟨[.ok [0x88, 2, 0x03, 0xE8]], [], [], []⟩))
    (.call .read ⟨_, rfl⟩) rfl
  refine ⟨_, h₄, rfl, rfl, fun r ↦ ?_⟩
  cases r with
  | server => exact ⟨rfl, rfl, rfl, rfl⟩
  | client => exact ⟨rfl, rfl, rfl, rfl⟩

/-- In `reach_closed` both sides have closed. -/
theorem closing_agrees_normal : ∃ d : Dialogue, ∀ r, (d r).socket.context.state.canRead = false ∧
    (d r).socket.socket.queued.countP (·.isClose) = 1 ∧
      ∃ c, .close c ∈ (d r).journal.heard := by
  obtain ⟨d, hreach, hclient, hserver, hquiet⟩ := reach_closed
  have hj : ∀ r, Undisturbed (d r).journal := by
    intro r
    cases r with
    | server =>
        rw [hserver]
        exact List.forall_mem_cons.2
          ⟨by rintro ⟨⟨⟩⟩, List.forall_mem_singleton.2 (by rintro ⟨⟨⟩⟩)⟩
    | client =>
        rw [hclient]
        exact List.forall_mem_cons.2
          ⟨by rintro ⟨⟨⟩⟩, List.forall_mem_singleton.2 (by rintro ⟨⟨⟩⟩)⟩
  rcases closing_agrees Utf8Crate.reference_lawful opened_silent hreach hj hquiet with hno | hclosed
  · refine absurd ?_ ((hno .client).2 (some ⟨.normal, []⟩) _ .close)
    rw [hclient]
    exact List.mem_cons_self
  · exact ⟨d, hclosed⟩

end Dialogue

end WebSocket

end Ws

end MessageIo
