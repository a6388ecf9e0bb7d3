import MessageIo.Protocol.RoundTrip

/-!
# How long a message may be

The WebSocket transport announces a maximal message size (`ws_adapter::MAX_PAYLOAD_LEN`), `send`
puts each message into one frame, and a connection accepts frames of the size that its
configuration allows.  The first is twice the last: a longer message is sent, and refused by
the other side.
-/

namespace MessageIo

namespace Ws

/-- Max message size for default config. -/
def maxPayloadLen : Nat := 32 <<< 20

end Ws

/-- The maximum size of a message. -/
def Transport.maxMessageSize : Transport → Nat
  | tcp | ssl => Ws.usizeMax
  | ws => Ws.maxPayloadLen

namespace Ws

namespace WebSocket

variable {u : Utf8Crate} {w w' : WebSocket} {f : Frame} {data : Bytes}

/-! ## Sending -/

/-- What `RemoteResource::send` makes of a result; nothing of one that would block. -/
def sendVerdict : Except Error Unit → Option (Except Error SendStatus)
  | .ok () => some (.ok .sent)
  | .error (.io .wouldBlock) => none
  | .error (.messageTooLong _ _) => some (.ok .maxPacketSizeExceeded)
  | .error (.halt h) => some (.error (.halt h))
  | .error _ => some (.ok .resourceNotFound)

/-- The loop of `RemoteResource::send`, as long as the fuel lasts: a message that would block is
flushed until it does not. -/
def sendLoop : Nat → Except Error Unit → Io SendStatus
  | 0, _ => throw (.halt .running)
  | fuel + 1, result =>
      match sendVerdict result with
      | some verdict => EStateM.ofExcept verdict
      | none => do
          let result ← flush.tried
          sendLoop fuel result

/-- `RemoteResource::send` -/
def sendPayload (fuel : Nat) (data : Bytes) : Io SendStatus := do
  let result ← (send (.binary data)).tried
  sendLoop fuel result

/-- The frame that `send` makes of a payload. -/
def payloadFrame (w : WebSocket) (data : Bytes) : Frame := w.masked (.message data .binary true)

/-- What is flushed comes after what was put out before. -/
theorem Flushed.output_grows (h : Flushed w w') : w.output <+: w'.output := by
  cases h.moved with
  | stays _ houtput _ =>
      rw [houtput]
  | goes _ _ _ houtput _ =>
      rw [houtput]
      exact List.prefix_append _ _

/-- **When `flush` returns, the stream has taken all.** -/
theorem flush_empties : flush.Ensures w fun r w' ↦
    r = .ok () → w'.context.frame.outBuffer = [] := by
  have hstream : ∀ w : WebSocket, w.context.frame.outBuffer = [] →
      (onCodec FrameSocket.flushStream).Ensures w fun _ w' ↦ w'.context.frame.outBuffer = [] := by
    intro w h
    rw [EStateM.Ensures, attempt_flushStream]
    exact h
  have hwrite : ∀ w : WebSocket, (onCodec FrameSocket.writeOutBuffer).Ensures w fun r w' ↦
      r = .ok () → w'.context.frame.outBuffer = [] := by
    intro w hok
    rw [attempt_writeOutBuffer] at hok ⊢
    rcases FrameCodec.drain_rest w.context.frame.outBuffer w.socket.answers.writes with
      ⟨-, hrest⟩ | ⟨⟨kind, herror⟩, -⟩
    · exact hrest
    · cases hok.symm.trans herror
  refine (flushes_write w).bind (fun b w₁ _ ↦ ?_) (fun _ _ _ ↦ by rintro ⟨⟩)
  refine (hwrite w₁).bind (fun _ w₂ hrest ↦ ?_) (fun _ _ _ ↦ by rintro ⟨⟩)
  exact (hstream w₂ (hrest rfl)).mono fun _ _ h _ ↦ h

/-- Only what went well is said to be sent. -/
theorem sendVerdict_sent {result : Except Error Unit} (h : sendVerdict result = some (.ok .sent)) :
    result = .ok () := by
  rw [sendVerdict.eq_def] at h
  split at h
  · rfl
  · cases h
  · cases h
  · cases h
  · cases h

/-- Only what would block is flushed. -/
theorem sendVerdict_none {result : Except Error Unit} (h : sendVerdict result = none) :
    result = .error (.io .wouldBlock) := by
  rw [sendVerdict.eq_def] at h
  split at h
  · cases h
  · rfl
  · cases h
  · cases h
  · cases h

/-- The loop of `send` only flushes, and when it says `Sent` the stream has taken all. -/
theorem ensures_sendLoop (fuel : Nat) {result : Except Error Unit}
    (h : result = .ok () → w.context.frame.outBuffer = []) :
    (sendLoop fuel result).Ensures w fun r w' ↦
      Flushed w w' ∧ (r = .ok .sent → w'.context.frame.outBuffer = []) := by
  induction fuel generalizing w result with
  | zero => exact ⟨.refl w, nofun⟩
  | succ fuel ih =>
      rw [sendLoop]
      cases hverdict : sendVerdict result with
      | some verdict =>
          refine EStateM.Ensures.ofExcept ⟨.refl w, ?_⟩
          rintro rfl
          exact h (sendVerdict_sent hverdict)
      | none =>
          have hflush : flush.Ensures w fun r w' ↦
              Flushed w w' ∧ (r = .ok () → w'.context.frame.outBuffer = []) :=
            ((flushes_flush w).and flush_empties).mono fun _ _ h ↦ ⟨h.1.1, h.2⟩
          have hrest : (sendLoop fuel (flush.attempt w).1).Ensures (flush.attempt w).2 fun r w' ↦
              Flushed w w' ∧ (r = .ok .sent → w'.context.frame.outBuffer = []) :=
            (ih hflush.2).mono fun _ _ h ↦ ⟨hflush.1.trans h.1, h.2⟩
          exact hrest

/-- **A payload that is sent** is put into the buffer of output, as one frame, and flushed. -/
theorem ensures_send (w : WebSocket) (data : Bytes) :
    (send (.binary data)).Ensures w fun r w' ↦
      (∃ e, r = .error e ∧ e ≠ .io .wouldBlock) ∨
        Flushed (w.buffered (.message data .binary true)) w' ∧
          (r = .ok () → w'.context.frame.outBuffer = []) := by
  have hwrite : (write (.binary data)).Ensures w fun r w' ↦
      (∃ e, r = .error e ∧ e ≠ .io .wouldBlock) ∨
        Flushed (w.buffered (.message data .binary true)) w' := by
    by_cases hactive : w.context.state = .active
    · have hframe : (writeFrame (.message data .binary true)).Ensures w fun r w' ↦
          (∃ e, r = .error e ∧ e ≠ .io .wouldBlock) ∨
            Flushed (w.buffered (.message data .binary true)) w' := by
        refine (ensures_writeFrame _ w).mono ?_
        rintro r w' (⟨-, ⟨message, rfl⟩, -⟩ | ⟨-, hflushed⟩)
        · exact .inl ⟨_, rfl, by rintro ⟨⟩⟩
        · exact .inr hflushed
      rw [EStateM.Ensures, attempt_write_active hactive]
      exact hframe
    · obtain ⟨e, he, hattempt⟩ := attempt_write_inactive hactive (.binary data)
      rw [EStateM.Ensures, hattempt]
      rcases he with rfl | rfl
      · exact .inl ⟨_, rfl, by rintro ⟨⟩⟩
      · exact .inl ⟨_, rfl, by rintro ⟨⟩⟩
  refine hwrite.bind (fun _ w₁ h₁ ↦ ?_) fun e w₁ h₁ ↦ ?_
  · rcases h₁ with ⟨e, he, -⟩ | h₁
    · cases he
    · exact ((flushes_flush w₁).and flush_empties).mono fun r w₂ h₂ ↦
        .inr ⟨h₁.trans h₂.1.1, h₂.2⟩
  · rcases h₁ with h₁ | h₁
    · exact .inl h₁
    · exact .inr ⟨h₁, by rintro ⟨⟩⟩

/-- **What is said to be sent** is written: the frame of the payload, after what was put out before
it. -/
theorem sendPayload_sent {fuel : Nat} (h : (sendPayload fuel data).attempt w = (.ok .sent, w')) :
    w.output ++ (w.payloadFrame data).format <+: w'.socket.written := by
  have hloop : (sendLoop fuel ((send (.binary data)).attempt w).1).attempt
      ((send (.binary data)).attempt w).2 = (.ok .sent, w') := h
  have hsend := ensures_send w data
  rw [EStateM.Ensures] at hsend
  generalize (send (.binary data)).attempt w = out at hloop hsend
  obtain ⟨result, w₁⟩ := out
  rcases hsend with ⟨e, rfl, he⟩ | ⟨hflushed, hempty⟩
  · cases fuel with
    | zero => cases hloop
    | succ fuel =>
        rw [sendLoop] at hloop
        cases hverdict : sendVerdict (.error e) with
        | some verdict =>
            rw [hverdict] at hloop
            have hsent : verdict = .ok .sent := by
              rw [EStateM.attempt_ofExcept] at hloop
              exact congrArg Prod.fst hloop
            rw [hsent] at hverdict
            cases sendVerdict_sent hverdict
        | none =>
            cases sendVerdict_none hverdict
            exact absurd rfl he
  · have hrest := ensures_sendLoop fuel hempty
    rw [EStateM.Ensures, hloop] at hrest
    have hprefix := (hflushed.trans hrest.1).output_grows
    rw [output_buffered, output, output, hrest.2 rfl, List.append_nil] at hprefix
    exact hprefix

/-! ## Receiving -/

/-- **What a handshake hands over**, with the default limits, and is given these bytes: a part of
them has been read, and the rest arrives somehow. -/
structure HandedOver (peer : Role) (bytes : Bytes) (r : WebSocket) : Prop where
  created : ∃ stream part tail role, role ≠ peer ∧ fromPartiallyRead stream part role none = .ok r ∧
    Chunks tail stream.answers.reads ∧ part ++ tail = bytes
  steady : Steady r

end WebSocket

/-- A header takes at most fourteen bytes. -/
theorem Frame.len_le (g : Frame) : g.len ≤ g.payload.length + 14 := by
  have hextra : ∀ format : LengthFormat, format.extraBytes ≤ 8 := by
    intro format
    cases format with
    | u8 b => exact Nat.zero_le _
    | u16 => decide
    | u64 => decide
  have hheader := hextra (LengthFormat.forLength g.payload.length)
  have hmask : (if g.header.mask.isSome then 4 else 0) ≤ 4 := by
    split <;> decide
  rw [Frame.len, FrameHeader.len]
  omega

namespace FrameCodec

variable {maxSize : Nat} {c : FrameCodec} {tail : Bytes} {f : Frame}

/-- **A frame that is too big** is refused as soon as its header is there. -/
theorem Coming.tooLong (hdefined : f.header.opcode.isDefined) (hsize : f.payload.length < 2 ^ 64)
    (hbig : maxSize < f.payload.length) (h : c.Coming tail [f]) :
    (c.nextFrame maxSize = (.ok none, c) ∧ tail ≠ []) ∨
      ∃ c', c.nextFrame maxSize = (.error (.messageTooLong f.payload.length maxSize), c') ∧
        c'.Coming tail [f] := by
  rcases h.nextHeader hsize ⟨hdefined, Nat.le_refl _⟩ with
    ⟨hnone, -, htail⟩ | ⟨c', hsome, hheader, hbytes⟩
  · refine .inl ⟨?_, htail⟩
    rw [FrameCodec.nextFrame, hnone]
  · refine .inr ⟨c', ?_, .inside hheader hbytes⟩
    rw [FrameCodec.nextFrame, hsome]
    simp only
    rw [if_pos hbig]

/-- What reading such a frame ends with: it is refused, or there is a break in the stream. -/
structure Refuses (maxSize : Nat) (f : Frame) (reads : List ReadCall) (out : FrameRead) : Prop where
  coming : ∃ tail, Chunks tail out.reads ∧ out.codec.Coming tail [f]
  result : (out.result = .error (.io .wouldBlock) ∧ out.reads.length < reads.length) ∨
    out.result = .error (.messageTooLong f.payload.length maxSize)
  length : out.reads.length ≤ reads.length

/-- **A frame that is too big is never handed over**, whatever the chunks. -/
theorem refuses_readLoop (hdefined : f.header.opcode.isDefined) (hsize : f.payload.length < 2 ^ 64)
    (hbig : maxSize < f.payload.length) {reads : List ReadCall} (hchunks : Chunks tail reads)
    (h : c.Coming tail [f]) : Refuses maxSize f reads (c.readLoop maxSize reads) := by
  induction hchunks generalizing c with
  | nil =>
      rcases h.tooLong hdefined hsize hbig with ⟨-, htail⟩ | ⟨c', herror, hcoming⟩
      · exact absurd rfl htail
      · rw [readLoop_done herror nofun]
        exact ⟨⟨_, .nil, hcoming⟩, .inr rfl, Nat.le_refl _⟩
  | @block tail reads hchunks ih =>
      rcases h.tooLong hdefined hsize hbig with ⟨hnone, -⟩ | ⟨c', herror, hcoming⟩
      · rw [readLoop_err hnone]
        exact ⟨⟨_, hchunks, h⟩, .inl ⟨rfl, Nat.lt_succ_self _⟩, Nat.le_succ _⟩
      · rw [readLoop_done herror nofun]
        exact ⟨⟨_, .block hchunks, hcoming⟩, .inr rfl, Nat.le_refl _⟩
  | @chunk data tail reads hdata hchunks ih =>
      rcases h.tooLong hdefined hsize hbig with ⟨hnone, -⟩ | ⟨c', herror, hcoming⟩
      · rw [readLoop_more hnone hdata]
        have hout := ih h.fed
        refine ⟨hout.coming, ?_, hout.length.trans (Nat.le_succ _)⟩
        rcases hout.result with ⟨hblock, hlt⟩ | hlong
        · exact .inl ⟨hblock, hlt.trans (Nat.lt_succ_self _)⟩
        · exact .inr hlong
      · rw [readLoop_done herror nofun]
        exact ⟨⟨_, .chunk hdata hchunks, hcoming⟩, .inr rfl, Nat.le_refl _⟩

end FrameCodec

namespace WebSocket

variable {u : Utf8Crate} {w w' : WebSocket} {f : Frame} {data : Bytes}

/-- **A connection that is sent too big a frame.** -/
structure Overrun (f : Frame) (w : WebSocket) : Prop where
  state : w.context.state = .active
  config : w.context.config = .default
  steady : Steady w
  coming : ∃ tail, Chunks tail w.socket.answers.reads ∧ w.context.frame.Coming tail [f]

/-- What a call of `read` returns then. -/
structure Refused (f : Frame) (w : WebSocket) (r : Except Error Message) (w' : WebSocket) :
    Prop where
  overrun : Overrun f w'
  result : (r = .error (.io .wouldBlock) ∧
      w'.socket.answers.reads.length < w.socket.answers.reads.length) ∨
    r = .error (.messageTooLong f.payload.length (16 <<< 20))
  length : w'.socket.answers.reads.length ≤ w.socket.answers.reads.length

/-- **A call of `read` refuses the frame**, or would block. -/
theorem refused_read (hdefined : f.header.opcode.isDefined) (hsize : f.payload.length < 2 ^ 64)
    (hbig : 16 <<< 20 < f.payload.length) (h : Overrun f w) :
    (read u).Ensures w fun r w' ↦ Refused f w r w' := by
  have hstate : w.context.state ≠ .terminated := by
    rw [h.state]
    rintro ⟨⟩
  obtain ⟨w₁, hbefore, hflushed, hsteady⟩ := beforeRead_steady h.steady h.state
  obtain ⟨tail, hchunks, hcoming⟩ := h.coming
  have hactive : w₁.context.state = .active :=
    (hflushed.active (by rw [h.state]; rfl)).trans h.state
  have hconfig : w₁.context.config = .default :=
    (congrArg Input.config hflushed.input).trans h.config
  have hreads : w₁.socket.answers.reads = w.socket.answers.reads :=
    congrArg Input.reads hflushed.input
  have hcoming₁ : w₁.context.frame.Coming tail [f] := hcoming.sameInput
    ⟨congrArg Input.inBuffer hflushed.input, congrArg Input.header hflushed.input⟩
  have hframeRead :
      w₁.frameRead = w₁.context.frame.readLoop (16 <<< 20) w.socket.answers.reads := by
    rw [frameRead, hconfig, hreads]
    rfl
  have hout := FrameCodec.refuses_readLoop hdefined hsize hbig hchunks hcoming₁
  rw [← hframeRead] at hout
  have hoverrun : Overrun f w₁.received :=
    ⟨hactive, hconfig, ⟨hsteady.writes, hsteady.flushes⟩, hout.coming⟩
  have herror : ∀ {e : Error}, w₁.frameRead.result = .error e → e ≠ .io .connectionReset →
      (readMessageFrame u).attempt w₁ = (.error e, w₁.received) := by
    intro e he hne
    obtain ⟨e', he', hattempt⟩ := readMessageFrame_error (u := u) he
    rw [checkConnectionReset_error, if_neg fun h ↦ hne h.2] at he'
    cases he'
    exact hattempt
  rw [EStateM.Ensures, attempt_read hstate, EStateM.attempt_bind_ok hbefore]
  rcases hout.result with ⟨hblock, hlt⟩ | hlong
  · rw [EStateM.attempt_bind_error (herror hblock (by rintro ⟨⟩))]
    exact ⟨hoverrun, .inl ⟨rfl, hlt⟩, hout.length⟩
  · rw [EStateM.attempt_bind_error (herror hlong (by rintro ⟨⟩))]
    exact ⟨hoverrun, .inr rfl, hout.length⟩

/-- **Successive calls of `read` return no message**, and in the end an error of capacity. -/
theorem reads_refused (hdefined : f.header.opcode.isDefined) (hsize : f.payload.length < 2 ^ 64)
    (hbig : 16 <<< 20 < f.payload.length) (n : Nat) (h : Overrun f w) :
    returned (reads u n w).1 = [] ∧ (w.socket.answers.reads.length < n →
      .error (.messageTooLong f.payload.length (16 <<< 20)) ∈ (reads u n w).1) := by
  induction n generalizing w with
  | zero => exact ⟨rfl, fun hlt ↦ nomatch hlt⟩
  | succ n ih =>
      have hread := refused_read (u := u) hdefined hsize hbig h
      rw [EStateM.Ensures] at hread
      have hreads : (reads u (n + 1) w).1 =
          ((read u).attempt w).1 :: (reads u n ((read u).attempt w).2).1 := rfl
      rw [hreads]
      generalize (read u).attempt w = out at hread
      obtain ⟨r, w'⟩ := out
      obtain ⟨hnone, hlong⟩ := ih hread.overrun
      rcases hread.result with ⟨hr, hless⟩ | hr
      · cases hr
        exact ⟨hnone, fun hlt ↦ List.mem_cons_of_mem _ (hlong (by simp only at hless ⊢; omega))⟩
      · cases hr
        exact ⟨hnone, fun _ ↦ List.mem_cons_self⟩

/-! ## The limits -/

/-- The frame of a payload, as it is written. -/
theorem payloadFrame_facts (w : WebSocket) (data : Bytes) :
    (w.payloadFrame data).header.opcode.isDefined ∧
      (w.payloadFrame data).payload.length = data.length := by
  rw [payloadFrame, masked]
  cases w.context.role with
  | server => exact ⟨rfl, rfl⟩
  | client => exact ⟨rfl, rfl⟩

/-- A connection that is handed over with these bytes: its codec is about to read them. -/
theorem HandedOver.facts {peer : Role} {r : WebSocket} (h : HandedOver peer f.format r) :
    r.context.role ≠ peer ∧ r.context.state = .active ∧ r.context.config = .default ∧
      r.context.incomplete = none ∧
      ∃ tail, Chunks tail r.socket.answers.reads ∧ r.context.frame.Coming tail [f] := by
  obtain ⟨stream, part, tail, role, hrole, hcreated, hchunks, hbytes⟩ := h.created
  obtain ⟨frame, rfl, rfl⟩ := fromPartiallyRead_ok hcreated
  refine ⟨hrole, rfl, rfl, rfl, tail, hchunks, .between rfl ?_⟩
  rw [List.flatMap_singleton]
  exact hbytes

/-- **A payload is accepted exactly if it is no longer than a frame may be.**  What `send` writes
for it is one frame; a connection that a handshake hands over, and that is given this frame,
returns the payload, or an error of capacity. -/
theorem accepted_iff (hu : u.Lawful) (hlen : data.length ≤ Transport.maxMessageSize .ws)
    {fuel : Nat} (hsent : (sendPayload fuel data).attempt w = (.ok .sent, w')) :
    w.output ++ (w.payloadFrame data).format <+: w'.socket.written ∧
      ∀ r, HandedOver w.context.role (w.payloadFrame data).format r →
        ∀ n, r.socket.answers.reads.length < n →
          (returned (reads u n r).1 = [.binary data] ↔ data.length ≤ 16 <<< 20) ∧
          (16 <<< 20 < data.length →
            .error (.messageTooLong data.length (16 <<< 20)) ∈ (reads u n r).1) := by
  obtain ⟨hdefined, hlength⟩ := w.payloadFrame_facts data
  refine ⟨sendPayload_sent hsent, fun r hr n hn ↦ ?_⟩
  obtain ⟨hrole, hstate, hconfig, hincomplete, tail, hchunks, hcoming⟩ := hr.facts
  by_cases hfits : data.length ≤ 16 <<< 20
  · have hcarries : Carries w.context.role (.binary data) (w.payloadFrame data) :=
      ⟨_, .binary hfits, goes_masked w _⟩
    have hwaits : Waits w.context.role [.binary data] r :=
      ⟨hrole, hstate, hconfig, hincomplete, hr.steady, tail, _, .cons hcarries .nil, hchunks,
        hcoming⟩
    refine ⟨iff_of_true ((reads_waits hu n hwaits).2.2 ?_) hfits, fun hbig ↦ ?_⟩
    · exact hn
    · exact absurd hfits (Nat.not_le.2 hbig)
  · have hbig : 16 <<< 20 < (w.payloadFrame data).payload.length := by
      rw [hlength]
      exact Nat.not_le.1 hfits
    have hsize : (w.payloadFrame data).payload.length < 2 ^ 64 := by
      rw [hlength]
      exact hlen.trans_lt (by decide)
    obtain ⟨hnone, hlong⟩ := reads_refused (u := u) hdefined hsize hbig n
      ⟨hstate, hconfig, hr.steady, tail, hchunks, hcoming⟩
    refine ⟨iff_of_false ?_ hfits, fun _ ↦ ?_⟩
    · rw [hnone]
      exact nofun
    · rw [← hlength]
      exact hlong hn

/-- A payload of one byte, a part of which comes with the handshake. -/
theorem accepted_byte :
    returned (reads .reference 2 ⟨.new ⟨[.ok [0x01, 7]], [], [], []⟩,
      ⟨.client,
        { FrameCodec.fromPartiallyRead [0x82] with outBufferWriteLen := 128 * 1024 }, .active,
        none, none, .default⟩, false, 0⟩).1 = [.binary [7]] := by
  have hsent : (sendPayload 2 [7]).attempt
      (fresh .server ⟨[], [.ok 1, .err .wouldBlock, .ok 2], [], []⟩) = (.ok .sent, _) := rfl
  have hchunks : Chunks ([0x01, 7] ++ []) [.ok [0x01, 7]] := .chunk (List.cons_ne_nil _ _) .nil
  have hover : HandedOver .server [0x82, 0x01, 7] ⟨.new ⟨[.ok [0x01, 7]], [], [], []⟩,
      ⟨.client,
        { FrameCodec.fromPartiallyRead [0x82] with outBufferWriteLen := 128 * 1024 }, .active,
        none, none, .default⟩, false, 0⟩ :=
    ⟨⟨_, [0x82], [0x01, 7], .client, nofun, rfl, hchunks, rfl⟩, ⟨fun _ h ↦ (nomatch h),
      fun _ h ↦ (nomatch h)⟩⟩
  exact (((accepted_iff Utf8Crate.reference_lawful (by decide) hsent).2 _ hover 2 (by decide)).1).2
    (by decide)

/-! ### A payload that is too long -/

/-- A connection that is active is not closing. -/
theorem not_closing (h : w.context.state = .active) : ¬ Closing w := by
  rintro ⟨-, hread⟩
  rw [h] at hread
  cases hread

/-- With nothing in `additionalSend`, there is nothing to be written. -/
theorem write_none_active (hstate : w.context.state = .active)
    (hnone : w.context.additionalSend = none) : (_write none).attempt w = (.ok false, w) := by
  rw [write_none, EStateM.attempt_bind_ok (writeAdditional_none hnone),
    endIfClosing_open (not_closing hstate)]

/-- A connection whose stream takes all that it has. -/
structure Takes (w : WebSocket) : Prop where
  state : w.context.state = .active
  none : w.context.additionalSend = none
  flushes : w.socket.answers.flushes = []
  drain : w.drain.result = .ok ()

/-- It can be flushed. -/
theorem Takes.flush (h : Takes w) : ∃ w', WebSocket.flush.attempt w = (.ok (), w') := by
  rw [flush_eq, EStateM.attempt_bind_ok (writeAdditional_none h.none)]
  rcases restOfFlush_open (not_closing h.state) false with ⟨-, hflush⟩ | ⟨e, he, -⟩
  · have hflushes : w.drained.socket.answers.flushes = [] := h.flushes
    rw [hflush, attempt_flushStream, hflushes]
    exact ⟨_, rfl⟩
  · exact nomatch h.drain.symm.trans he

/-- The frame of a payload is taken by such a stream. -/
theorem bufferFrame_takes (hstate : w.context.state = .active) (hwritten : w.AllWritten)
    (hflushes : w.socket.answers.flushes = []) (hfits : w.Fits f) {n : Nat}
    (hwrites : w.socket.answers.writes = [.ok n]) (hn : (w.masked f).len ≤ n) :
    ∃ w', (bufferFrame f).attempt w = (.ok (), w') ∧ Takes w' := by
  have hout : (w.buffered f).context.frame.outBuffer = (w.masked f).format := by
    show w.context.frame.outBuffer ++ (w.masked f).format = _
    rw [hwritten.1, List.nil_append]
  have hpos : 0 < (w.masked f).len := Nat.lt_of_lt_of_le (by decide) (Frame.two_le_len _)
  have hnil : (w.masked f).format ≠ [] := by
    apply List.ne_nil_of_length_pos
    rw [Frame.length_format]
    exact hpos
  have hdrain : (w.buffered f).drain.result = .ok () ∧ (w.buffered f).drain.rest = [] := by
    have hanswers : (w.buffered f).socket.answers.writes = [.ok n] := hwrites
    have hall : (w.masked f).format.drop n = [] := by
      apply List.drop_of_length_le
      rw [Frame.length_format]
      exact hn
    rw [WebSocket.drain, hout, hanswers, FrameCodec.drain_ok hnil [] (hpos.trans_le hn), hall]
    exact ⟨rfl, rfl⟩
  by_cases hlarge : w.context.frame.outBufferWriteLen <
    (w.buffered f).context.frame.outBuffer.length
  · refine ⟨(w.buffered f).drained, ?_, hstate, hwritten.2, hflushes, ?_⟩
    · rw [bufferFrame_large hfits hlarge, hdrain.1]
      rfl
    · show (FrameCodec.drain (w.buffered f).drain.rest _).result = _
      rw [hdrain.2, FrameCodec.drain_nil]
  · exact ⟨w.buffered f, bufferFrame_small hfits hlarge, hstate, hwritten.2, hflushes, hdrain.1⟩

/-- **A stream that takes all** that it is offered at once: the payload is said to be sent. -/
theorem sendPayload_takes (hstate : w.context.state = .active) (hwritten : w.AllWritten)
    (hflushes : w.socket.answers.flushes = [])
    (hfits : w.Fits (.message data .binary true)) {n : Nat}
    (hwrites : w.socket.answers.writes = [.ok n]) (hn : (w.payloadFrame data).len ≤ n) :
    ∃ w', (sendPayload 1 data).attempt w = (.ok .sent, w') := by
  obtain ⟨w₁, hbuffer, htakes⟩ := bufferFrame_takes hstate hwritten hflushes hfits hwrites hn
  have hframe : (_write (some (.message data .binary true))).attempt w = (.ok false, w₁) := by
    rw [write_some, EStateM.attempt_bind_ok hbuffer, write_none_active htakes.state htakes.none]
  have hwrite : (write (.binary data)).attempt w = (.ok (), w₁) := by
    rw [attempt_write_active hstate]
    exact EStateM.attempt_bind_ok hframe
  obtain ⟨w₂, hflush⟩ := htakes.flush
  have hsend : (send (.binary data)).attempt w = (.ok (), w₂) := by
    rw [send, EStateM.attempt_bind_ok hwrite, hflush]
  refine ⟨w₂, ?_⟩
  show EStateM.attempt (sendLoop 1 ((send (.binary data)).attempt w).1)
    ((send (.binary data)).attempt w).2 = _
  rw [hsend]
  rfl

/-- A payload of one byte more than a frame may have. -/
@[irreducible] def longPayload : Bytes := List.replicate (16 <<< 20 + 1) 0

/-- A server whose stream takes 32 MiB at once. -/
def generousServer : WebSocket := fresh .server ⟨[], [.ok (32 <<< 20)], [], []⟩

/-- **A payload that is too long for the other side is sent all the same.** -/
theorem longPayload_refused :
    longPayload.length ≤ Transport.maxMessageSize .ws ∧
      (∃ w', (sendPayload 1 longPayload).attempt generousServer = (.ok .sent, w')) ∧
      ∃ r, HandedOver .server (generousServer.payloadFrame longPayload).format r ∧
        ∀ n, returned (reads .reference n r).1 ≠ [.binary longPayload] := by
  have hlength : longPayload.length = 16 <<< 20 + 1 := by
    rw [longPayload, List.length_replicate]
  obtain ⟨hdefined, hpayload⟩ := generousServer.payloadFrame_facts longPayload
  generalize hframe : generousServer.payloadFrame longPayload = g at hdefined hpayload ⊢
  rw [hlength] at hpayload
  have hlen : g.len ≤ 32 <<< 20 := by
    refine g.len_le.trans ?_
    rw [hpayload]
    decide
  have hfits : generousServer.Fits (.message longPayload .binary true) := by
    have hmasked : generousServer.masked (.message longPayload .binary true) = g := hframe
    have hroom : g.len ≤ usizeMax := hlen.trans (by decide)
    have hout : generousServer.frameSocket.codec.outBuffer.length = 0 := rfl
    have hmax : generousServer.frameSocket.codec.maxOutBufferLen = usizeMax := rfl
    rw [Fits, FrameSocket.Fits, hmasked, hout, hmax, Nat.add_zero]
    exact hroom
  have hoffer : (generousServer.payloadFrame longPayload).len ≤ 32 <<< 20 := by
    rw [hframe]
    exact hlen
  have hover : HandedOver .server g.format (fresh .client ⟨[.ok g.format], [], [], []⟩) := by
    have hnil : g.format ≠ [] := by
      apply List.ne_nil_of_length_pos
      rw [Frame.length_format]
      exact Nat.lt_of_lt_of_le (by decide) g.two_le_len
    have hchunks : Chunks (g.format ++ []) [.ok g.format] := .chunk hnil .nil
    rw [List.append_nil] at hchunks
    exact ⟨⟨.new ⟨[.ok g.format], [], [], []⟩, [], g.format, .client, nofun, rfl, hchunks, rfl⟩,
      ⟨fun _ h ↦ (nomatch h), fun _ h ↦ (nomatch h)⟩⟩
  refine ⟨?_, sendPayload_takes rfl ⟨rfl, rfl⟩ rfl hfits rfl hoffer, _, hover, fun n ↦ ?_⟩
  · rw [hlength]
    decide
  · obtain ⟨-, hstate, hconfig, -, hcoming⟩ := hover.facts
    have hbig : 16 <<< 20 < g.payload.length := by
      rw [hpayload]
      decide
    have hsize : g.payload.length < 2 ^ 64 := by
      rw [hpayload]
      decide
    rw [(reads_refused hdefined hsize hbig n ⟨hstate, hconfig, hover.steady, hcoming⟩).1]
    exact nofun

end WebSocket

end Ws

end MessageIo
