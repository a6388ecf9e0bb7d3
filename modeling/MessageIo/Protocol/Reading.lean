import MessageIo.Protocol.Writing

/-!
# What the reading calls do

`readMessageFrame` gets a frame from the codec and deals with it.  What it does to the output is
little: an answer to a ping or to a close is kept in `additionalSend` (`Answered`).  `read`
never runs out of the fuel it is given (`read_ne_running`).
-/

namespace MessageIo

namespace Ws

/-! ## The buffer of input -/

namespace FrameCodec

/-- Reading leaves the rest of a codec as it is. -/
structure SameOutput (c c' : FrameCodec) : Prop where
  outBuffer : c'.outBuffer = c.outBuffer
  maxOutBufferLen : c'.maxOutBufferLen = c.maxOutBufferLen
  outBufferWriteLen : c'.outBufferWriteLen = c.outBufferWriteLen

theorem SameOutput.trans {c c' c'' : FrameCodec} (h : c.SameOutput c') (h' : c'.SameOutput c'') :
    c.SameOutput c'' :=
  ⟨h'.outBuffer.trans h.outBuffer, h'.maxOutBufferLen.trans h.maxOutBufferLen,
    h'.outBufferWriteLen.trans h.outBufferWriteLen⟩

/-- The header of the next frame is read from the buffer, unless it has been. -/
theorem nextHeader_some {c : FrameCodec} {h : FrameHeader × Nat} (hheader : c.header = some h) :
    c.nextHeader = (.ok (some h), c) := by
  rw [nextHeader, hheader]

theorem nextHeader_none {c : FrameCodec} (hheader : c.header = none) :
    c.nextHeader = match FrameHeader.parse c.inBuffer with
      | (.ok header, inBuffer) => (.ok header, { c with inBuffer, header })
      | (.error e, inBuffer) => (.error e, { c with inBuffer }) := by
  rw [nextHeader, hheader]
  generalize FrameHeader.parse c.inBuffer = out
  obtain ⟨r, inBuffer⟩ := out
  cases r with
  | ok header => rfl
  | error e => rfl

theorem size_none {c : FrameCodec} (h : c.header = none) : c.size = c.inBuffer.length := by
  rw [size, h]
  rfl

theorem size_some {c : FrameCodec} {header : FrameHeader × Nat} (h : c.header = some header) :
    c.size = c.inBuffer.length + 1 := by
  rw [size, h]
  rfl

/-- What `nextHeader` does to the codec. -/
theorem nextHeader_spec (c : FrameCodec) :
    c.SameOutput c.nextHeader.2 ∧ c.nextHeader.2.size ≤ c.size ∧
      ∀ h, c.nextHeader.1 = .ok (some h) → c.nextHeader.2.header = some h := by
  cases hheader : c.header with
  | some h =>
      rw [nextHeader_some hheader]
      refine ⟨⟨rfl, rfl, rfl⟩, Nat.le_refl _, ?_⟩
      rintro _ ⟨⟩
      exact hheader
  | none =>
      rw [nextHeader_none hheader, size_none hheader]
      rcases FrameHeader.parse_le c.inBuffer with hnone | hle
      · rw [hnone]
        refine ⟨⟨rfl, rfl, rfl⟩, ?_, fun _ h ↦ nomatch h⟩
        rw [size_none rfl]
      · generalize FrameHeader.parse c.inBuffer = out at hle
        obtain ⟨r, rest⟩ := out
        have hrest : rest.length + 2 ≤ c.inBuffer.length := hle
        rcases r with e | _ | h
        · refine ⟨⟨rfl, rfl, rfl⟩, ?_, fun _ h ↦ nomatch h⟩
          refine (size_none (c := { c with inBuffer := rest }) hheader).trans_le ?_
          show rest.length ≤ c.inBuffer.length
          omega
        · refine ⟨⟨rfl, rfl, rfl⟩, ?_, fun _ h ↦ nomatch h⟩
          rw [size_none rfl]
          show rest.length ≤ c.inBuffer.length
          omega
        · refine ⟨⟨rfl, rfl, rfl⟩, ?_, ?_⟩
          · rw [size_some rfl]
            show rest.length + 1 ≤ c.inBuffer.length
            omega
          · rintro _ ⟨⟩
            rfl

/-- What `nextFrame` does to the codec. -/
theorem nextFrame_spec (maxSize : Nat) (c : FrameCodec) :
    c.SameOutput (c.nextFrame maxSize).2 ∧ (c.nextFrame maxSize).2.size ≤ c.size ∧
      ∀ f, (c.nextFrame maxSize).1 = .ok (some f) → (c.nextFrame maxSize).2.size < c.size := by
  obtain ⟨hsame, hsize, hsome⟩ := c.nextHeader_spec
  rw [nextFrame]
  generalize c.nextHeader = out at hsame hsize hsome
  obtain ⟨r, c'⟩ := out
  rcases r with e | _ | ⟨h, length⟩
  · exact ⟨hsame, hsize, fun _ h ↦ nomatch h⟩
  · exact ⟨hsame, hsize, fun _ h ↦ nomatch h⟩
  · have hheader : c'.header = some (h, length) := hsome _ rfl
    have hsize' : c'.inBuffer.length + 1 ≤ c.size := by
      rw [← size_some hheader]
      exact hsize
    simp only
    split
    · exact ⟨hsame, hsize, fun _ h ↦ nomatch h⟩
    · split
      · have hlt : (c'.inBuffer.drop length).length < c.size := by
          rw [List.length_drop]
          omega
        refine ⟨hsame.trans ⟨rfl, rfl, rfl⟩, ?_, fun _ _ ↦ ?_⟩
        · rw [size_none rfl]
          exact hlt.le
        · rw [size_none rfl]
          exact hlt
      · exact ⟨hsame, hsize, fun _ h ↦ nomatch h⟩

/-- More bytes have been read. -/
def fed (c : FrameCodec) (data : Bytes) : FrameCodec := { c with inBuffer := c.inBuffer ++ data }

section ReadLoop

variable {maxSize : Nat} {c c' : FrameCodec}

/-- A frame, or an error, is found without reading. -/
theorem readLoop_done {r : Except Error (Option Frame)} (h : c.nextFrame maxSize = (r, c'))
    (hr : r ≠ .ok none) (reads : List ReadCall) :
    c.readLoop maxSize reads = ⟨r, c', reads, 0⟩ := by
  rcases r with e | _ | f
  · cases reads with
    | nil => rw [readLoop, h]
    | cons call reads => rw [readLoop, h]
  · exact absurd rfl hr
  · cases reads with
    | nil => rw [readLoop, h]
    | cons call reads => rw [readLoop, h]

variable (h : c.nextFrame maxSize = (.ok none, c'))

include h

theorem readLoop_nil :
    c.readLoop maxSize [] = ⟨.error (.io .wouldBlock), c', [], 1⟩ := by
  rw [readLoop, h]

theorem readLoop_err (kind : ErrorKind) (reads : List ReadCall) :
    c.readLoop maxSize (.err kind :: reads) = ⟨.error (.io kind), c', reads, 1⟩ := by
  rw [readLoop.eq_def]
  simp only [h]

theorem readLoop_end (reads : List ReadCall) :
    c.readLoop maxSize (.ok [] :: reads) = ⟨.ok none, c', reads, 1⟩ := by
  rw [readLoop.eq_def]
  simp only [h]

theorem readLoop_more {data : Bytes} (hdata : data ≠ []) (reads : List ReadCall) :
    c.readLoop maxSize (.ok data :: reads) =
      { (c'.fed data).readLoop maxSize reads with
        count := ((c'.fed data).readLoop maxSize reads).count + 1 } := by
  rw [readLoop.eq_def]
  simp only [h]
  cases data with
  | nil => exact absurd rfl hdata
  | cons b data => rfl

end ReadLoop

/-- A property of what `readLoop` ends with, for each way it ends. -/
theorem readLoop_cases {maxSize : Nat} {P : FrameCodec → List ReadCall → FrameRead → Prop}
    (done : ∀ c c' r reads, c.nextFrame maxSize = (r, c') → r ≠ .ok none →
      P c reads ⟨r, c', reads, 0⟩)
    (blocks : ∀ c c', c.nextFrame maxSize = (.ok none, c') →
      P c [] ⟨.error (.io .wouldBlock), c', [], 1⟩)
    (fails : ∀ c c' kind reads, c.nextFrame maxSize = (.ok none, c') →
      P c (.err kind :: reads) ⟨.error (.io kind), c', reads, 1⟩)
    (ends : ∀ c c' reads, c.nextFrame maxSize = (.ok none, c') →
      P c (.ok [] :: reads) ⟨.ok none, c', reads, 1⟩)
    (more : ∀ c c' data reads out, c.nextFrame maxSize = (.ok none, c') → data ≠ [] →
      P (c'.fed data) reads out → P c (.ok data :: reads) { out with count := out.count + 1 })
    (c : FrameCodec) (reads : List ReadCall) : P c reads (c.readLoop maxSize reads) := by
  induction reads generalizing c with
  | nil =>
      obtain ⟨r, c', hnext⟩ : ∃ r c', c.nextFrame maxSize = (r, c') := ⟨_, _, rfl⟩
      by_cases hr : r = .ok none
      · rw [hr] at hnext
        rw [readLoop_nil hnext]
        exact blocks c c' hnext
      · rw [readLoop_done hnext hr]
        exact done c c' r [] hnext hr
  | cons call reads ih =>
      obtain ⟨r, c', hnext⟩ : ∃ r c', c.nextFrame maxSize = (r, c') := ⟨_, _, rfl⟩
      by_cases hr : r = .ok none
      · rw [hr] at hnext
        rcases call with (_ | ⟨b, data⟩) | kind
        · rw [readLoop_end hnext]
          exact ends c c' reads hnext
        · rw [readLoop_more hnext (List.cons_ne_nil b data)]
          exact more c c' _ reads _ hnext (List.cons_ne_nil b data) (ih _)
        · rw [readLoop_err hnext]
          exact fails c c' kind reads hnext
      · rw [readLoop_done hnext hr]
        exact done c c' r _ hnext hr

/-- The errors of the codec: an opcode without a meaning, or a frame that is too long. -/
theorem nextFrame_error {maxSize : Nat} {c : FrameCodec} {e : Error}
    (h : (c.nextFrame maxSize).1 = .error e) :
    (∃ i, e = .protocol (.invalidOpcode i)) ∨ ∃ length, e = .messageTooLong length maxSize := by
  have hheader : ∀ e, c.nextHeader.1 = .error e → ∃ i, e = .protocol (.invalidOpcode i) := by
    intro e he
    cases hheader : c.header with
    | some header =>
        rw [nextHeader_some hheader] at he
        cases he
    | none =>
        rw [nextHeader_none hheader] at he
        cases hparse : FrameHeader.parse c.inBuffer with
        | mk r inBuffer =>
            rw [hparse] at he
            cases r with
            | ok header => cases he
            | error e =>
                cases he
                exact FrameHeader.parse_error (congrArg Prod.fst hparse)
  rw [nextFrame] at h
  generalize c.nextHeader = out at hheader h
  obtain ⟨r, c'⟩ := out
  rcases r with e' | _ | ⟨header, length⟩
  · cases h
    exact .inl (hheader _ rfl)
  · cases h
  · simp only at h
    split at h
    · cases h
      exact .inr ⟨length, rfl⟩
    · split at h
      · cases h
      · cases h

/-- An error of the stream is none of the codec. -/
theorem nextFrame_ne_io {maxSize : Nat} {c c' : FrameCodec} {kind : ErrorKind} :
    c.nextFrame maxSize ≠ (.error (.io kind), c') := by
  intro h
  rcases nextFrame_error (congrArg Prod.fst h) with ⟨i, he⟩ | ⟨length, he⟩
  · cases he
  · cases he

/-- The errors of `readLoop`: those of the codec, and those of the stream. -/
theorem readLoop_error {maxSize : Nat} {c : FrameCodec} {reads : List ReadCall} {e : Error}
    (h : (c.readLoop maxSize reads).result = .error e) :
    (∃ i, e = .protocol (.invalidOpcode i)) ∨ (∃ length, e = .messageTooLong length maxSize) ∨
      ∃ kind, e = .io kind := by
  revert h
  refine readLoop_cases (P := fun _ _ out ↦ out.result = .error e →
    (∃ i, e = .protocol (.invalidOpcode i)) ∨ (∃ length, e = .messageTooLong length maxSize) ∨
      ∃ kind, e = .io kind) ?_ ?_ ?_ ?_ ?_ c reads
  · intro c c' r reads hnext _ he
    have hr : r = .error e := he
    rw [hr] at hnext
    rcases nextFrame_error (congrArg Prod.fst hnext) with hopcode | hlong
    · exact .inl hopcode
    · exact .inr (.inl hlong)
  · rintro c c' _ ⟨⟩
    exact .inr (.inr ⟨_, rfl⟩)
  · rintro c c' kind reads _ ⟨⟩
    exact .inr (.inr ⟨_, rfl⟩)
  · exact fun _ _ _ _ h ↦ nomatch h
  · exact fun _ _ _ _ _ _ _ ih ↦ ih

/-- **What `readLoop` does to the codec**: the buffer of input and the header change, and a frame
uses a part of what there was. -/
structure Progress (c : FrameCodec) (reads : List ReadCall) (out : FrameRead) : Prop where
  output : c.SameOutput out.codec
  size : out.codec.size + readable out.reads ≤ c.size + readable reads
  frame : ∀ f, out.result = .ok (some f) →
    out.codec.size + readable out.reads < c.size + readable reads

theorem size_fed (c : FrameCodec) (data : Bytes) : (c.fed data).size = c.size + data.length := by
  show (c.inBuffer ++ data).length + (if c.header.isSome then 1 else 0) =
    c.inBuffer.length + (if c.header.isSome then 1 else 0) + data.length
  rw [List.length_append, Nat.add_right_comm]

theorem progress_readLoop (maxSize : Nat) (c : FrameCodec) (reads : List ReadCall) :
    Progress c reads (c.readLoop maxSize reads) := by
  have hkeeps : ∀ {c c' : FrameCodec} {r}, c.nextFrame maxSize = (r, c') →
      c.SameOutput c' ∧ c'.size ≤ c.size ∧ ∀ f, r = .ok (some f) → c'.size < c.size := by
    intro c c' r hnext
    have hspec := c.nextFrame_spec maxSize
    rw [hnext] at hspec
    exact hspec
  refine readLoop_cases (P := Progress) ?_ ?_ ?_ ?_ ?_ c reads
  · intro c c' r reads hnext _
    obtain ⟨hsame, hsize, hframe⟩ := hkeeps hnext
    exact ⟨hsame, Nat.add_le_add_right hsize _, fun f hf ↦ Nat.add_lt_add_right (hframe f hf) _⟩
  · intro c c' hnext
    obtain ⟨hsame, hsize, -⟩ := hkeeps hnext
    exact ⟨hsame, hsize, fun _ h ↦ nomatch h⟩
  · intro c c' kind reads hnext
    obtain ⟨hsame, hsize, -⟩ := hkeeps hnext
    exact ⟨hsame, Nat.add_le_add_right hsize _, fun _ h ↦ nomatch h⟩
  · intro c c' reads hnext
    obtain ⟨hsame, hsize, -⟩ := hkeeps hnext
    refine ⟨hsame, ?_, fun _ h ↦ nomatch h⟩
    show c'.size + readable reads ≤ c.size + (0 + readable reads)
    omega
  · intro c c' data reads out hnext _ ih
    obtain ⟨hsame, hsize, -⟩ := hkeeps hnext
    have hsame' : c'.SameOutput (c'.fed data) := ⟨rfl, rfl, rfl⟩
    have hreads : readable (.ok data :: reads) = data.length + readable reads := rfl
    have hsize' := ih.size
    rw [size_fed] at hsize'
    refine ⟨(hsame.trans hsame').trans ih.output, ?_, ?_⟩
    · show out.codec.size + readable out.reads ≤ _
      omega
    · intro f hf
      have hframe := ih.frame f hf
      rw [size_fed] at hframe
      show out.codec.size + readable out.reads < _
      omega

end FrameCodec

/-! ## `read_frame` -/

namespace FrameSocket

/-- What the codec hands over. -/
def frameRead (maxSize : Option Nat) (s : FrameSocket) : FrameCodec.FrameRead :=
  s.codec.readLoop (maxSize.getD usizeMax) s.socket.answers.reads

/-- The codec has read. -/
def received (maxSize : Option Nat) (s : FrameSocket) : FrameSocket where
  socket := { s.socket with
    answers := { s.socket.answers with reads := (s.frameRead maxSize).reads }
    ops := s.socket.ops ++ List.replicate (s.frameRead maxSize).count .read }
  codec := (s.frameRead maxSize).codec

theorem attempt_readFrame (maxSize : Option Nat) (s : FrameSocket) :
    (readFrame maxSize).attempt s = ((s.frameRead maxSize).result, s.received maxSize) :=
  EStateM.attempt_ofExcept _ _

end FrameSocket

namespace WebSocket

variable {u : Utf8Crate} {w w' w'' : WebSocket} {f : Frame}

/-- What the codec hands over. -/
def frameRead (w : WebSocket) : FrameCodec.FrameRead :=
  w.context.frame.readLoop (w.context.config.maxFrameSize.getD usizeMax) w.socket.answers.reads

/-- The codec has read. -/
def received (w : WebSocket) : WebSocket :=
  { w with
    socket := { w.socket with
      answers := { w.socket.answers with reads := w.frameRead.reads }
      ops := w.socket.ops ++ List.replicate w.frameRead.count .read }
    context := { w.context with frame := w.frameRead.codec } }

theorem attempt_readFrame (w : WebSocket) :
    (onCodec (FrameSocket.readFrame w.context.config.maxFrameSize)).attempt w =
      (w.frameRead.result, w.received) := by
  rw [onCodec, EStateM.attempt_zoom, FrameSocket.attempt_readFrame]
  rfl

theorem sameOutput_received (w : WebSocket) : w.context.frame.SameOutput w.received.context.frame :=
  (FrameCodec.progress_readLoop _ _ _).output

/-- **A frame is handed over**, and dealt with. -/
theorem readMessageFrame_frame (h : w.frameRead.result = .ok (some f)) :
    (readMessageFrame u).attempt w = (processFrame u f).attempt w.received := by
  rw [readMessageFrame, EStateM.attempt_get_bind, EStateM.attempt_tried_bind, attempt_readFrame, h]
  rfl

/-- The stream has ended. -/
theorem readMessageFrame_end (h : w.frameRead.result = .ok none) :
    (readMessageFrame u).attempt w = closedByStream.attempt w.received := by
  rw [readMessageFrame, EStateM.attempt_get_bind, EStateM.attempt_tried_bind, attempt_readFrame, h]
  rfl

/-- The codec, or the stream, fails. -/
theorem readMessageFrame_error {e : Error} (h : w.frameRead.result = .error e) :
    ∃ e',
      checkConnectionReset w.context.state (.error e : Except Error (Option Frame)) = .error e' ∧
      (readMessageFrame u).attempt w = (.error e', w.received) := by
  have herror : ∃ e', checkConnectionReset w.context.state
      (.error e : Except Error (Option Frame)) = .error e' := by
    rw [checkConnectionReset.eq_def]
    split
    · split
      · exact ⟨_, rfl⟩
      · exact ⟨_, rfl⟩
    · exact ⟨_, rfl⟩
  obtain ⟨e', he'⟩ := herror
  refine ⟨e', he', ?_⟩
  rw [readMessageFrame, EStateM.attempt_get_bind, EStateM.attempt_tried_bind, attempt_readFrame, h,
    he']
  rfl

/-! ## Answers -/

theorem attempt_setAdditional (add : Frame) (automatic : Bool) (w : WebSocket) :
    (setAdditional add automatic).attempt w =
      (.ok (), if w.context.additionalSend.all (·.isPong) then
        w.setAdditionalSend (some add) automatic else w) := by
  show EStateM.attempt (if w.context.additionalSend.all (·.isPong) then _ else _) w = _
  split
  · rfl
  · rfl

/-- `additionalSend` with an answer, unless it has a Close frame to send. -/
def answeredBy (add : Frame) (w : WebSocket) : WebSocket :=
  if w.context.additionalSend.all (·.isPong) then w.setAdditionalSend (some add) true else w

/-- **What dealing with a frame does to the output**: an answer is kept for later. -/
inductive Answered (w : WebSocket) : WebSocket → Prop
  | nothing (incomplete : Option IncompleteMessage) : Answered w (w.setIncomplete incomplete)
  | pong (payload : Bytes) (h : w.context.state = .active) :
      Answered w (w.answeredBy (.pong payload))
  | reply {close : Option CloseFrame} {reply : Frame} (h : w.context.state = .active)
      (hreply : Frame.close close = some reply) :
      Answered w ((w.setState .closedByPeer).answeredBy reply)
  | closed (h : w.context.state = .active) : Answered w (w.setState .closedByPeer)
  | acknowledged (h : w.context.state = .closedByUs) : Answered w (w.setState .closeAcknowledged)
  | terminated : Answered w (w.setState .terminated)

theorem Answered.refl (w : WebSocket) : Answered w w := .nothing w.context.incomplete

/-- An error says what is wrong with a frame, and not that the connection has ended. -/
def AboutFrame : Error → Prop
  | .connectionClosed | .io _ | .halt .running => False
  | _ => True

/-- **A verdict on a frame**: it is accepted, or it is said what is wrong with it. -/
def Verdict {α : Type} (r : Except Error α) : Prop := ∀ e, r = .error e → AboutFrame e

theorem Verdict.ok {α : Type} (a : α) : Verdict (.ok a) := fun _ h ↦ nomatch h

theorem verdict_error {α : Type} {e : Error} (h : AboutFrame e) :
    Verdict (.error e : Except Error α) := by
  rintro _ ⟨⟩
  exact h

theorem Verdict.protocol {α : Type} (e : ProtocolError) :
    Verdict (.error (.protocol e) : Except Error α) := verdict_error trivial

theorem Verdict.error {α β : Type} {e : Error} (h : Verdict (.error e : Except Error α)) :
    Verdict (.error e : Except Error β) := verdict_error (h e rfl)

/-- What can be wrong with the fragments of a message. -/
def Fault : Error → Prop
  | .utf8 | .protocol _ | .messageTooLong _ _ => True
  | _ => False

/-- **Fragments are taken**, or it is said what is wrong with them. -/
def Judged {α : Type} (r : Except Error α) : Prop := ∀ e, r = .error e → Fault e

theorem Judged.ok {α : Type} (a : α) : Judged (.ok a) := fun _ h ↦ nomatch h

theorem judged_error {α : Type} {e : Error} (h : Fault e) : Judged (.error e : Except Error α) := by
  rintro _ ⟨⟩
  exact h

theorem Judged.protocol {α : Type} (e : ProtocolError) :
    Judged (.error (.protocol e) : Except Error α) := judged_error trivial

theorem Judged.error {α β : Type} {e : Error} (h : Judged (.error e : Except Error α)) :
    Judged (.error e : Except Error β) := judged_error (h e rfl)

theorem Judged.utf8 {α : Type} : Judged (.error .utf8 : Except Error α) := judged_error trivial

theorem Judged.verdict {α : Type} {r : Except Error α} (h : Judged r) : Verdict r := by
  intro e he
  have hfault := h e he
  cases e with
  | utf8 => trivial
  | protocol => trivial
  | messageTooLong => trivial
  | connectionClosed => exact hfault
  | alreadyClosed => trivial
  | io => exact hfault
  | writeBufferFull => trivial
  | halt halt => exact False.elim hfault

theorem judged_collect (c : StringCollector) (tail : Bytes) : Judged (c.extend u tail).1 := by
  have hrest : ∀ (c : StringCollector) (input : Bytes), Judged (c.decodeRest u input).1 := by
    intro c input
    rw [StringCollector.decodeRest]
    split
    · exact .ok ()
    · split
      · exact .ok ()
      · exact .ok ()
      · exact .utf8
  have hfirst : Judged (c.completeFirst u tail).1 := by
    rw [StringCollector.completeFirst]
    split
    · exact .ok _
    · split
      · exact .ok _
      · exact .ok _
      · exact .utf8
  rw [StringCollector.extend]
  generalize c.completeFirst u tail = out at hfirst
  obtain ⟨r, c'⟩ := out
  cases r with
  | ok input => exact hrest c' input
  | error e => exact hfirst.error

theorem judged_extend (m : IncompleteMessage) (tail : Bytes) (limit : Option Nat) :
    Judged (m.extend u tail limit).1 := by
  rw [IncompleteMessage.extend.eq_def]
  simp only
  split
  · exact judged_error trivial
  · cases m with
    | text t => exact judged_collect t tail
    | binary b => exact .ok ()

theorem judged_complete (m : IncompleteMessage) : Judged (m.complete.map some) := by
  cases m with
  | binary b => exact .ok _
  | text t =>
      rw [IncompleteMessage.complete, StringCollector.intoString]
      split
      · exact .utf8
      · exact .ok _

/-- So is a fragment that is joined to what there is. -/
theorem judged_join (limit : Option Nat) (f : Frame) (m : IncompleteMessage)
    (kept : IncompleteMessage → Option IncompleteMessage) :
    Judged (match m.extend u f.payload limit with
      | (.error e, m) => ((.error e, kept m) : Except Error (Option Message) × _)
      | (.ok (), m) =>
          if f.header.isFinal then (m.complete.map some, none) else (.ok none, some m)).1 := by
  have hextend := judged_extend (u := u) m f.payload limit
  generalize m.extend u f.payload limit = out at hextend
  obtain ⟨r, m'⟩ := out
  cases r with
  | error e => exact hextend.error
  | ok a =>
      simp only
      split
      · exact judged_complete m'
      · exact .ok _

theorem judged_dataFrame (limit : Option Nat) (incomplete : Option IncompleteMessage) (d : Data)
    (f : Frame) : Judged (dataFrame u limit incomplete d f).1 := by
  cases incomplete with
  | some msg =>
      cases d with
      | «continue» => exact judged_join limit f msg some
      | text => exact .protocol _
      | binary => exact .protocol _
      | reserved i => exact .protocol _
  | none =>
      cases d with
      | «continue» => exact .protocol _
      | text => exact judged_join limit f _ fun _ ↦ none
      | binary => exact judged_join limit f _ fun _ ↦ none
      | reserved i => exact .protocol _

/-- A computation that deals with a frame. -/
def Deals {α : Type} (m : Io α) : Prop :=
  ∀ w, m.Ensures w fun r w' ↦ Answered w w' ∧ Verdict r

theorem deals_throw {α : Type} (e : ProtocolError) : Deals (throw (.protocol e) : Io α) :=
  fun w ↦ ⟨.refl w, .protocol e⟩

theorem attempt_answer_some (reply : Frame) (w : WebSocket) :
    (answer (some reply)).attempt w = (.ok (), w.answeredBy reply) :=
  attempt_setAdditional reply true w

/-- What is left to do after a frame has been dealt with. -/
theorem ensures_answered {α β : Type} {m : Io α} {w : WebSocket} (f : α → β)
    (h : m.Ensures w fun r w' ↦ Answered w w' ∧ Verdict r) :
    (m >>= fun a ↦ Pure.pure (f a) : Io β).Ensures w fun r w' ↦ Answered w w' ∧ Verdict r := by
  refine h.bind ?_ ?_
  · rintro a w' ⟨hanswered, -⟩
    exact ⟨hanswered, .ok _⟩
  · rintro e w' ⟨hanswered, hverdict⟩
    exact ⟨hanswered, hverdict.error⟩

theorem deals_doClose (close : Option CloseFrame) : Deals (doClose close) := by
  intro w
  refine EStateM.Ensures.get_bind ?_
  cases hstate : w.context.state with
  | active =>
      have hreply : (answer (Frame.close (close.map CloseFrame.checked))).Ensures
          (w.setState .closedByPeer) fun r w' ↦ Answered w w' ∧ Verdict r := by
        cases hframe : Frame.close (close.map CloseFrame.checked) with
        | none => exact ⟨.closed hstate, .ok ()⟩
        | some reply =>
            rw [EStateM.Ensures, attempt_answer_some]
            exact ⟨.reply hstate hframe, .ok ()⟩
      refine EStateM.Ensures.set_bind (hreply.bind ?_ ?_)
      · rintro _ w' ⟨hanswered, -⟩
        exact ⟨hanswered, .ok _⟩
      · rintro e w' ⟨hanswered, hverdict⟩
        exact ⟨hanswered, hverdict.error⟩
  | closedByPeer => exact ⟨.refl w, .ok _⟩
  | closeAcknowledged => exact ⟨.refl w, .ok _⟩
  | closedByUs => exact ⟨.acknowledged hstate, .ok _⟩
  | terminated => exact ⟨.refl w, verdict_error trivial⟩

theorem deals_controlFrame (ctl : Control) (f : Frame) : Deals (controlFrame ctl f) := by
  intro w
  refine EStateM.Ensures.ite (fun _ ↦ deals_throw _ w) fun _ ↦
    EStateM.Ensures.ite (fun _ ↦ deals_throw _ w) fun _ ↦ ?_
  cases ctl with
  | close =>
      show EStateM.Ensures (EStateM.ofExcept f.intoClose >>= _) w _
      have hclose : Verdict f.intoClose := by
        rw [Frame.intoClose]
        split
        · exact .ok _
        · exact .protocol _
        · exact .ok _
      cases hinto : f.intoClose with
      | error e =>
          rw [hinto] at hclose
          exact ⟨.refl w, hclose.error⟩
      | ok close => exact ensures_answered _ (deals_doClose close w)
  | reserved i => exact deals_throw _ w
  | ping =>
      refine EStateM.Ensures.get_bind (EStateM.Ensures.ite ?_ ?_)
      · intro hactive
        have hstate : w.context.state = .active := by
          cases hstate : w.context.state
          all_goals rw [hstate] at hactive
          all_goals first | rfl | cases hactive
        have hpong : (setAdditional (.pong f.payload) true).Ensures w
            fun r w' ↦ Answered w w' ∧ Verdict r := by
          rw [EStateM.Ensures, attempt_setAdditional]
          exact ⟨.pong _ hstate, .ok ()⟩
        exact ensures_answered _ hpong
      · exact fun _ ↦ ⟨.refl w, .ok _⟩
  | pong => exact ⟨.refl w, .ok _⟩

/-- **Dealing with a frame** keeps an answer at most, and ends with a verdict. -/
theorem deals_processFrame (f : Frame) : Deals (processFrame u f) := by
  intro w
  refine EStateM.Ensures.get_bind (EStateM.Ensures.ite (fun _ ↦ deals_throw _ w) fun _ ↦
    EStateM.Ensures.ite (fun _ ↦ deals_throw _ w) fun _ ↦ ?_)
  have hunmask : Verdict (unmask w.context.role w.context.config.acceptUnmaskedFrames f) := by
    rw [unmask.eq_def]
    split
    · split
      · exact .ok _
      · split
        · exact .protocol _
        · exact .ok _
    · split
      · exact .protocol _
      · exact .ok _
  cases hframe : unmask w.context.role w.context.config.acceptUnmaskedFrames f with
  | error e =>
      rw [hframe] at hunmask
      exact ⟨.refl w, hunmask.error⟩
  | ok f' =>
      refine EStateM.Ensures.ofExcept_bind rfl ?_
      cases f'.header.opcode with
      | control ctl => exact deals_controlFrame ctl f' w
      | data d =>
          exact EStateM.Ensures.set_bind
            (EStateM.Ensures.ofExcept ⟨.nothing _, (judged_dataFrame _ _ _ _).verdict⟩)

/-- **A frame that is not refused** is dealt with without its mask. -/
theorem processFrame_control (hread : w.context.state.canRead = true)
    (hreserved : ¬ (f.header.rsv1 ∨ f.header.rsv2 ∨ f.header.rsv3)) {f' : Frame} {ctl : Control}
    (hunmask : unmask w.context.role w.context.config.acceptUnmaskedFrames f = .ok f')
    (hopcode : f'.header.opcode = .control ctl) :
    (processFrame u f).attempt w = (controlFrame ctl f').attempt w := by
  rw [processFrame, EStateM.attempt_get_bind, if_neg (not_not_intro hread), if_neg hreserved,
    hunmask, EStateM.attempt_bind_ok (EStateM.attempt_ofExcept _ w), hopcode]

theorem processFrame_data (hread : w.context.state.canRead = true)
    (hreserved : ¬ (f.header.rsv1 ∨ f.header.rsv2 ∨ f.header.rsv3)) {f' : Frame} {d : Data}
    (hunmask : unmask w.context.role w.context.config.acceptUnmaskedFrames f = .ok f')
    (hopcode : f'.header.opcode = .data d) :
    (processFrame u f).attempt w =
      ((dataFrame u w.context.config.maxMessageSize w.context.incomplete d f').1,
        w.setIncomplete
          (dataFrame u w.context.config.maxMessageSize w.context.incomplete d f').2) := by
  rw [processFrame, EStateM.attempt_get_bind, if_neg (not_not_intro hread), if_neg hreserved,
    hunmask, EStateM.attempt_bind_ok (EStateM.attempt_ofExcept _ w), hopcode]
  exact EStateM.attempt_ofExcept _ _

/-- The mask is wrong. -/
theorem processFrame_error (hread : w.context.state.canRead = true)
    (hreserved : ¬ (f.header.rsv1 ∨ f.header.rsv2 ∨ f.header.rsv3)) {e : Error}
    (hunmask : unmask w.context.role w.context.config.acceptUnmaskedFrames f = .error e) :
    (processFrame u f).attempt w = (.error e, w) := by
  rw [processFrame, EStateM.attempt_get_bind, if_neg (not_not_intro hread), if_neg hreserved,
    hunmask]
  rfl

/-- A bit is set that has no meaning. -/
theorem processFrame_reserved (hread : w.context.state.canRead = true)
    (hreserved : f.header.rsv1 ∨ f.header.rsv2 ∨ f.header.rsv3) :
    (processFrame u f).attempt w = (.error (.protocol .nonZeroReservedBits), w) := by
  rw [processFrame, EStateM.attempt_get_bind, if_neg (not_not_intro hread), if_pos hreserved]
  rfl

/-- A connection that is closing takes no more frames. -/
theorem processFrame_closing (h : w.context.state.canRead = false) (f : Frame) :
    (processFrame u f).attempt w = (.error (.protocol .receivedAfterClosing), w) := by
  show EStateM.attempt (if ¬ w.context.state.canRead then _ else _) w = _
  rw [h, if_pos Bool.false_ne_true]
  rfl

/-! ## Frames that return no message -/

/-- What dealing with a control frame leaves as it is. -/
structure SameReader (w w' : WebSocket) : Prop where
  role : w'.context.role = w.context.role
  config : w'.context.config = w.context.config
  incomplete : w'.context.incomplete = w.context.incomplete

theorem SameReader.answeredBy (add : Frame) (w : WebSocket) : SameReader w (w.answeredBy add) := by
  rw [WebSocket.answeredBy]
  split
  · exact ⟨rfl, rfl, rfl⟩
  · exact ⟨rfl, rfl, rfl⟩

/-- The command of a Close frame is returned, if the connection is active. -/
theorem doClose_active (h : w.context.state = .active) (close : Option CloseFrame) :
    ∃ w', (doClose close).attempt w = (.ok (some (close.map .checked)), w') ∧ SameReader w w' := by
  have hattempt : (doClose close).attempt w =
      (answer (Frame.close (close.map CloseFrame.checked)) >>= fun _ ↦
        Pure.pure (some (close.map CloseFrame.checked))).attempt (w.setState .closedByPeer) := by
    rw [doClose, EStateM.attempt_get_bind, h]
    rfl
  rw [hattempt]
  cases Frame.close (close.map CloseFrame.checked) with
  | none => exact ⟨_, rfl, rfl, rfl, rfl⟩
  | some reply =>
      rw [EStateM.attempt_bind_ok (attempt_answer_some _ _)]
      have hsame := SameReader.answeredBy reply (w.setState .closedByPeer)
      exact ⟨_, rfl, hsame.role, hsame.config, hsame.incomplete⟩

/-- **Whoever can read is told of a Close frame**: of its command, or of one in its place. -/
theorem doClose_canRead (h : w.context.state.canRead = true) (close : Option CloseFrame) :
    ∃ close' w', (doClose close).attempt w = (.ok (some close'), w') ∧ SameReader w w' ∧
      (close' = close ∨ close' = close.map .checked) := by
  cases hstate : w.context.state with
  | active =>
      obtain ⟨w', hactive, hsame⟩ := doClose_active hstate close
      exact ⟨_, w', hactive, hsame, .inr rfl⟩
  | closedByUs =>
      refine ⟨close, w.setState .closeAcknowledged, ?_, ⟨rfl, rfl, rfl⟩, .inl rfl⟩
      rw [doClose, EStateM.attempt_get_bind, hstate]
      rfl
  | closedByPeer =>
      rw [hstate] at h
      cases h
  | closeAcknowledged =>
      rw [hstate] at h
      cases h
  | terminated =>
      rw [hstate] at h
      cases h

/-- A Close frame that returns no message changes nothing. -/
theorem doClose_none {close : Option CloseFrame}
    (h : (doClose close).attempt w = (.ok none, w')) : w' = w := by
  cases hstate : w.context.state with
  | active =>
      obtain ⟨w'', hactive, -⟩ := doClose_active hstate close
      cases h.symm.trans hactive
  | closedByPeer =>
      rw [doClose, EStateM.attempt_get_bind, hstate] at h
      cases h
      rfl
  | closeAcknowledged =>
      rw [doClose, EStateM.attempt_get_bind, hstate] at h
      cases h
      rfl
  | closedByUs =>
      rw [doClose, EStateM.attempt_get_bind, hstate] at h
      cases h
  | terminated =>
      rw [doClose, EStateM.attempt_get_bind, hstate] at h
      cases h

theorem controlFrame_none {ctl : Control}
    (h : (controlFrame ctl f).attempt w = (.ok none, w')) : w' = w := by
  rw [controlFrame.eq_def] at h
  split at h
  · cases h
  · split at h
    · cases h
    · cases ctl with
      | close =>
          have hattempt : EStateM.attempt (EStateM.ofExcept f.intoClose >>= fun close ↦
              doClose close >>= fun reply ↦ Pure.pure (reply.map Message.close)) w =
                (.ok none, w') := h
          cases hclose : f.intoClose with
          | error e =>
              rw [hclose] at hattempt
              cases hattempt
          | ok close =>
              rw [hclose] at hattempt
              have hdo : EStateM.attempt (doClose close >>= fun reply ↦
                  Pure.pure (reply.map Message.close)) w = (.ok none, w') := hattempt
              rw [EStateM.attempt_bind] at hdo
              generalize hout : (doClose close).attempt w = out at hdo
              obtain ⟨r, w''⟩ := out
              rcases r with e | _ | reply
              · cases hdo
              · cases hdo
                exact doClose_none hout
              · cases hdo
      | reserved i => cases h
      | ping =>
          have hattempt : EStateM.attempt (if w.context.state.isActive = true then
              setAdditional (.pong f.payload) true >>= fun _ ↦
                Pure.pure (some (Message.ping f.payload))
              else Pure.pure (some (Message.ping f.payload))) w = (.ok none, w') := h
          split at hattempt
          · rw [EStateM.attempt_bind_ok (attempt_setAdditional _ _ _)] at hattempt
            cases hattempt
          · cases hattempt
      | pong => cases h

/-- **A frame that returns no message** is a part of one, or changes nothing. -/
theorem processFrame_none (h : (processFrame u f).attempt w = (.ok none, w')) :
    ∃ incomplete, w' = w.setIncomplete incomplete := by
  rw [processFrame, EStateM.attempt_get_bind] at h
  split at h
  · cases h
  · split at h
    · cases h
    · cases hframe : unmask w.context.role w.context.config.acceptUnmaskedFrames f with
      | error e =>
          rw [hframe] at h
          cases h
      | ok f' =>
          rw [hframe, EStateM.attempt_bind_ok (EStateM.attempt_ofExcept _ w)] at h
          cases hopcode : f'.header.opcode with
          | control ctl =>
              rw [hopcode] at h
              exact ⟨w.context.incomplete, controlFrame_none h⟩
          | data d =>
              rw [hopcode] at h
              have hdata : (EStateM.ofExcept (dataFrame u w.context.config.maxMessageSize
                  w.context.incomplete d f').1 : Io (Option Message)).attempt
                    (w.setIncomplete (dataFrame u w.context.config.maxMessageSize
                      w.context.incomplete d f').2) = (.ok none, w') := h
              rw [EStateM.attempt_ofExcept] at hdata
              exact ⟨_, (congrArg Prod.snd hdata).symm⟩

/-! ## `read` -/

theorem Answered.codec (h : Answered w w') : w'.socket = w.socket ∧
    w'.context.frame = w.context.frame ∧ w'.replyEnd = w.replyEnd := by
  have hanswered : ∀ (add : Frame) (w : WebSocket), (w.answeredBy add).socket = w.socket ∧
      (w.answeredBy add).context.frame = w.context.frame ∧
        (w.answeredBy add).replyEnd = w.replyEnd := by
    intro add w
    rw [answeredBy]
    split
    · exact ⟨rfl, rfl, rfl⟩
    · exact ⟨rfl, rfl, rfl⟩
  cases h with
  | nothing incomplete => exact ⟨rfl, rfl, rfl⟩
  | pong payload => exact hanswered _ w
  | reply => exact hanswered _ (w.setState .closedByPeer)
  | closed => exact ⟨rfl, rfl, rfl⟩
  | acknowledged => exact ⟨rfl, rfl, rfl⟩
  | terminated => exact ⟨rfl, rfl, rfl⟩

/-- The codec says what is wrong with a frame, or the stream has failed. -/
theorem frameRead_error {w : WebSocket} {e : Error} (h : w.frameRead.result = .error e) :
    AboutFrame e ∨ ∃ kind, e = .io kind := by
  rcases FrameCodec.readLoop_error h with ⟨i, rfl⟩ | ⟨length, rfl⟩ | hkind
  · exact .inl trivial
  · exact .inl trivial
  · exact .inr hkind

theorem checkConnectionReset_error {α : Type} (state : WebSocketState) (e : Error) :
    checkConnectionReset state (.error e : Except Error α) =
      .error (if state.canRead = false ∧ e = .io .connectionReset then .connectionClosed
        else e) := by
  by_cases hio : ∃ kind, e = .io kind
  · obtain ⟨kind, rfl⟩ := hio
    rw [checkConnectionReset]
    cases state.canRead with
    | true => rfl
    | false =>
        cases kind
        all_goals rfl
  · rw [checkConnectionReset, if_neg]
    · rintro ⟨-, rfl⟩
      exact hio ⟨_, rfl⟩
    · rintro kind ⟨⟩
      exact hio ⟨kind, rfl⟩

/-- What a call of `read_message_frame` does, for each way it goes. -/
theorem ensures_readMessageFrame (w : WebSocket) :
    (readMessageFrame u).Ensures w fun r w' ↦
      (∃ f, w.frameRead.result = .ok (some f) ∧ Answered w.received w' ∧ Verdict r) ∨
      (w.frameRead.result = .ok none ∧ w' = w.received.setState .terminated ∧
        r = .error (if w.context.state = .closedByPeer ∨ w.context.state = .closeAcknowledged then
          .connectionClosed else .protocol .resetWithoutClosingHandshake)) ∨
      ∃ e, w.frameRead.result = .error e ∧ w' = w.received ∧
        r = .error (if w.context.state.canRead = false ∧ e = .io .connectionReset then
          .connectionClosed else e) := by
  rw [EStateM.Ensures]
  rcases hread : w.frameRead.result with e | _ | f
  · obtain ⟨e', he', hattempt⟩ := readMessageFrame_error (u := u) hread
    rw [hattempt]
    refine .inr (.inr ⟨e, rfl, rfl, ?_⟩)
    exact congrArg Except.error
      (Except.error.inj (he'.symm.trans (checkConnectionReset_error _ e)))
  · rw [readMessageFrame_end hread]
    refine .inr (.inl ⟨rfl, ?_⟩)
    show (closedByStream.attempt w.received).2 = _ ∧ (closedByStream.attempt w.received).1 = _
    rw [closedByStream, EStateM.attempt_get_bind, EStateM.attempt_set_bind]
    have hstate : w.received.context.state = w.context.state := rfl
    rw [hstate]
    cases w.context.state with
    | active => exact ⟨rfl, rfl⟩
    | closedByUs => exact ⟨rfl, rfl⟩
    | closedByPeer => exact ⟨rfl, rfl⟩
    | closeAcknowledged => exact ⟨rfl, rfl⟩
    | terminated => exact ⟨rfl, rfl⟩
  · rw [readMessageFrame_frame hread]
    exact .inl ⟨f, rfl, deals_processFrame f w.received⟩

/-- What is kept by the steps of `read`. -/
structure Kept (P : WebSocket → Prop) : Prop where
  flushed : ∀ {w w'}, P w → Flushed w w' → P w'
  received : ∀ {w}, P w → P w.received
  answered : ∀ {w w'}, P w → Answered w w' → P w'

/-- The rest of a turn of the loop of `read`. -/
theorem Kept.ensures_turn {P : WebSocket → Prop} (hP : Kept P) {next : Io Message}
    (hnext : ∀ w, P w → next.Ensures w fun _ w' ↦ P w') (h : P w) :
    (readMessageFrame u >>= fun message ↦ match message with
      | some message => pure message
      | none => next).Ensures w fun _ w' ↦ P w' := by
  have hreceived := hP.received h
  refine (ensures_readMessageFrame w).bind ?_ ?_
  · rintro message w' (⟨f, -, hw', -⟩ | ⟨-, -, herror⟩ | ⟨e, -, -, herror⟩)
    · cases message with
      | some message => exact hP.answered hreceived hw'
      | none => exact hnext w' (hP.answered hreceived hw')
    · cases herror
    · cases herror
  · rintro e w' (⟨f, -, hw', -⟩ | ⟨-, rfl, -⟩ | ⟨e, -, rfl, -⟩)
    · exact hP.answered hreceived hw'
    · exact hP.answered hreceived .terminated
    · exact hreceived

theorem Kept.ensures_readLoop {P : WebSocket → Prop} (hP : Kept P) (fuel : Nat) (h : P w) :
    (readLoop u fuel).Ensures w fun _ w' ↦ P w' := by
  induction fuel generalizing w with
  | zero => exact h
  | succ fuel ih =>
      refine (flushes_beforeRead w).bind ?_ fun e w' hw' ↦ hP.flushed h hw'.1
      rintro _ w' ⟨hw', -⟩
      exact hP.ensures_turn (fun _ ↦ ih) (hP.flushed h hw')

/-- **What the steps of `read` keep, `read` keeps.** -/
theorem Kept.ensures_read {P : WebSocket → Prop} (hP : Kept P) (h : P w) :
    (read u).Ensures w fun _ w' ↦ P w' := by
  refine EStateM.Ensures.get_bind ?_
  show EStateM.Ensures (EStateM.ofExcept w.context.state.checkNotTerminated >>= _) w _
  cases w.context.state.checkNotTerminated with
  | ok a => exact hP.ensures_readLoop w.readFuel h
  | error e => exact h

/-- What there is to be read: in the codec, and from the stream. -/
def unread (w : WebSocket) : Nat :=
  w.context.frame.size + FrameCodec.readable w.socket.answers.reads

theorem Flushed.unread (h : Flushed w w') : w'.unread = w.unread :=
  congrArg (fun i : Input ↦ i.inBuffer.length + (if i.header.isSome then 1 else 0) +
    FrameCodec.readable i.reads) h.input

theorem Answered.unread (h : Answered w w') : w'.unread = w.unread := by
  rw [WebSocket.unread, h.codec.1, h.codec.2.1]
  rfl

/-- **`read` does not run out of fuel.** -/
theorem read_ne_running (w : WebSocket) :
    (read u).Ensures w fun r _ ↦ r ≠ .error (.halt .running) := by
  have hloop : ∀ fuel w, w.unread < fuel →
      (readLoop u fuel).Ensures w fun r _ ↦ r ≠ .error (.halt .running) := by
    intro fuel
    induction fuel with
    | zero => exact fun w h ↦ absurd h (Nat.not_lt_zero _)
    | succ fuel ih =>
        intro w h
        refine (flushes_beforeRead w).bind ?_ ?_
        · rintro _ w₁ ⟨hw₁, -⟩
          refine (ensures_readMessageFrame w₁).bind ?_ ?_
          · rintro message w₂ (⟨f, hf, hw₂, -⟩ | ⟨-, -, herror⟩ | ⟨e, -, -, herror⟩)
            · cases message with
              | some message => exact nofun
              | none =>
                  refine ih w₂ ?_
                  have hused : w₁.received.unread < w₁.unread :=
                    (FrameCodec.progress_readLoop _ _ _).frame f hf
                  rw [hw₂.unread]
                  rw [hw₁.unread] at hused
                  omega
            · cases herror
            · cases herror
          · rintro e w₂ (⟨f, -, -, hverdict⟩ | ⟨-, -, herror⟩ | ⟨e', hread, -, herror⟩)
            · rintro ⟨⟩
              exact hverdict _ rfl
            · cases herror
              split
              · exact nofun
              · exact nofun
            · cases herror
              split
              · exact nofun
              · rintro ⟨⟩
                rcases frameRead_error hread with h | ⟨_, ⟨⟩⟩
                exact h
        · rintro e w₁ ⟨-, hended⟩
          cases hended with
          | closed => exact nofun
          | io kind => exact nofun
  refine EStateM.Ensures.get_bind ?_
  show EStateM.Ensures (EStateM.ofExcept w.context.state.checkNotTerminated >>= _) w _
  cases hstate : w.context.state with
  | terminated => exact nofun
  | active => exact hloop w.readFuel w (Nat.lt_succ_self _)
  | closedByUs => exact hloop w.readFuel w (Nat.lt_succ_self _)
  | closedByPeer => exact hloop w.readFuel w (Nat.lt_succ_self _)
  | closeAcknowledged => exact hloop w.readFuel w (Nat.lt_succ_self _)

end WebSocket

end Ws

end MessageIo
