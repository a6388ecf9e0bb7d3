import MessageIo.Protocol.SizeLimit

/-!
# What stays in the buffer of input

`read` looks at the stream only if its buffer holds no whole frame, so that when it would block
nothing is left behind.  When it returns a message there may be more: `Strands` follows the frames
of the buffer and of the reads that are to come, and tells whether a binary message ends in the
last of these reads with another whole frame behind it.  Where it does not, neither does it after
a message that has been returned, and one that leaves nothing to read leaves no frame
(`ensures_read`).
-/

namespace MessageIo

namespace Ws

namespace FrameCodec

/-- The buffer of input holds the whole of a frame. -/
def holdsFrame (c : FrameCodec) : Bool :=
  match c.nextHeader with
  | (.ok (some (_, length)), c) => length ≤ c.inBuffer.length
  | _ => false

theorem SameInput.fed {c c' : FrameCodec} (h : c.SameInput c') (data : Bytes) :
    (c.fed data).SameInput (c'.fed data) := by
  refine ⟨?_, h.header⟩
  show c'.inBuffer ++ data = c.inBuffer ++ data
  rw [h.inBuffer]

theorem SameInput.holdsFrame {c c' : FrameCodec} (h : c.SameInput c') :
    c'.holdsFrame = c.holdsFrame := by
  obtain ⟨hr, hsame⟩ := h.nextHeader
  rw [FrameCodec.holdsFrame, FrameCodec.holdsFrame]
  generalize c.nextHeader = out at hr hsame
  generalize c'.nextHeader = out' at hr hsame
  obtain ⟨r, d⟩ := out
  obtain ⟨r', d'⟩ := out'
  cases hr
  rcases r with e | _ | ⟨header, length⟩
  · rfl
  · rfl
  · have hbuffer : d'.inBuffer = d.inBuffer := hsame.inBuffer
    simp only [hbuffer]

/-- A header that is not there is not there the next time. -/
theorem nextHeader_idle {c c' : FrameCodec} (h : c.nextHeader = (.ok none, c')) :
    c'.nextHeader = (.ok none, c') := by
  cases hheader : c.header with
  | some header =>
      rw [nextHeader_some hheader] at h
      cases h
  | none =>
      rw [nextHeader_none hheader, FrameHeader.parse] at h
      cases hparse : FrameHeader.parseInternal c.inBuffer with
      | none =>
          rw [hparse] at h
          cases h
          rw [nextHeader_none rfl, FrameHeader.parse]
          simp only [hparse]
      | some out =>
          obtain ⟨r, rest⟩ := out
          rw [hparse] at h
          cases r with
          | ok header => cases h
          | error e => cases h

/-- **A codec that asks for more** holds no frame. -/
theorem holdsFrame_of_idle {maxSize : Nat} {c c' : FrameCodec}
    (h : c.nextFrame maxSize = (.ok none, c')) : c'.holdsFrame = false := by
  have hsome := c.nextHeader_spec.2.2
  rw [nextFrame] at h
  generalize hnext : c.nextHeader = out at h hsome
  obtain ⟨r, c₁⟩ := out
  rcases r with e | _ | ⟨header, length⟩
  · cases h
  · cases h
    rw [holdsFrame, nextHeader_idle hnext]
  · simp only at h
    split at h
    · cases h
    · split at h
      · cases h
      · rename_i hlength
        cases h
        rw [holdsFrame, nextHeader_some (hsome _ rfl)]
        exact decide_eq_false hlength

end FrameCodec

/-! ## Messages that end -/

/-- The type of an incomplete message. -/
def IncompleteMessage.type : IncompleteMessage → IncompleteMessageType
  | text _ => .text
  | binary _ => .binary

namespace Frame

/-- A frame ends a binary message, if what has been received before is of this type. -/
def EndsBinary (incomplete : Option IncompleteMessageType) (f : Frame) : Prop :=
  f.header.isFinal = true ∧ (f.header.opcode = .data .binary ∨
    f.header.opcode = .data .«continue» ∧ incomplete = some .binary)

/-- What is incomplete after a frame. -/
def leaves (incomplete : Option IncompleteMessageType) (f : Frame) : Option IncompleteMessageType :=
  match f.header.opcode with
  | .data .«continue» => if f.header.isFinal then none else incomplete
  | .data .text => if f.header.isFinal then none else some .text
  | .data .binary => if f.header.isFinal then none else some .binary
  | _ => incomplete

end Frame

/-- **A frame is stranded**: one follows the frames of the buffer, and of what the stream is to be
read, up to the last read; there a binary message ends, and another whole frame is behind it.
After a Close frame nothing is followed. -/
inductive Strands (maxSize : Nat) : Option IncompleteMessageType → FrameCodec → List ReadCall → Prop
  | here {t : Option IncompleteMessageType} {c c' : FrameCodec} {f : Frame}
      (hnext : c.nextFrame maxSize = (.ok (some f), c')) (hends : f.EndsBinary t)
      (hholds : c'.holdsFrame = true) : Strands maxSize t c []
  | frame {t : Option IncompleteMessageType} {c c' : FrameCodec} {f : Frame}
      {reads : List ReadCall} (hnext : c.nextFrame maxSize = (.ok (some f), c'))
      (hclose : f.header.opcode ≠ .control .close) (h : Strands maxSize (f.leaves t) c' reads) :
      Strands maxSize t c reads
  | read {t : Option IncompleteMessageType} {c c' : FrameCodec} {data : Bytes}
      {reads : List ReadCall} (hnext : c.nextFrame maxSize = (.ok none, c')) (hdata : data ≠ [])
      (h : Strands maxSize t (c'.fed data) reads) : Strands maxSize t c (.ok data :: reads)

/-- It is a matter of the input. -/
theorem Strands.sameInput {maxSize : Nat} {t : Option IncompleteMessageType} {c d : FrameCodec}
    {reads : List ReadCall} (h : Strands maxSize t c reads) (hsame : c.SameInput d) :
    Strands maxSize t d reads := by
  have hnext : ∀ {c c' d : FrameCodec} {r : Except Error (Option Frame)}, c.SameInput d →
      c.nextFrame maxSize = (r, c') → ∃ d', d.nextFrame maxSize = (r, d') ∧ c'.SameInput d' := by
    intro c c' d r hsame hc
    obtain ⟨hr, hsame'⟩ := hsame.nextFrame maxSize
    rw [hc] at hr hsame'
    exact ⟨(d.nextFrame maxSize).2, Prod.ext hr rfl, hsame'⟩
  induction h generalizing d with
  | here hc hends hholds =>
      obtain ⟨d', hd, hsame'⟩ := hnext hsame hc
      exact .here hd hends (hsame'.holdsFrame.trans hholds)
  | frame hc hclose _ ih =>
      obtain ⟨d', hd, hsame'⟩ := hnext hsame hc
      exact .frame hd hclose (ih hsame')
  | read hc hdata _ ih =>
      obtain ⟨d', hd, hsame'⟩ := hnext hsame hc
      exact .read hd hdata (ih (hsame'.fed _))

/-- **A frame in each read** and none is stranded. -/
theorem not_strands_frames {maxSize : Nat} (hsize : maxSize < 2 ^ 64) {frames : List Frame}
    (hframes : ∀ f ∈ frames, f.Passes maxSize) {c : FrameCodec} (hc : c.Coming [] [])
    (t : Option IncompleteMessageType) :
    ¬ Strands maxSize t c (frames.map fun f ↦ .ok f.format) := by
  induction frames generalizing c t with
  | nil =>
      intro h
      cases h with
      | here hnext => cases hc.nil.1.symm.trans hnext
      | frame hnext => cases hc.nil.1.symm.trans hnext
  | cons f frames ih =>
      have hcoming : (c.fed f.format).Coming [] [f] := by
        refine FrameCodec.Coming.fed ?_
        cases hc with
        | between hheader hbytes =>
            refine .between hheader ?_
            rw [List.append_nil] at hbytes ⊢
            rw [hbytes]
            exact (List.append_nil f.format).symm
      obtain ⟨c', hframe, hrest⟩ : ∃ c', (c.fed f.format).nextFrame maxSize =
          (.ok (some f.onWire), c') ∧ c'.Coming [] [] := by
        rcases hcoming.nextFrame hsize (hframes f List.mem_cons_self) with ⟨_, -, -, hnil⟩ | h
        · exact absurd rfl hnil
        · exact h
      intro h
      cases h with
      | frame hnext => cases hc.nil.1.symm.trans hnext
      | read hnext _ h =>
          cases hc.nil.1.symm.trans hnext
          generalize hreads : (frames.map fun f ↦ ReadCall.ok f.format) = reads at h ih
          cases h with
          | here hnext _ hholds =>
              cases hframe.symm.trans hnext
              have hidle : c'.nextFrame maxSize = (.ok none, c') := hrest.nil.1
              rw [FrameCodec.holdsFrame_of_idle hidle] at hholds
              cases hholds
          | frame hnext _ h =>
              cases hframe.symm.trans hnext
              exact ih (fun f hf ↦ hframes f (List.mem_cons_of_mem _ hf)) hrest _ h
          | read hnext => cases hframe.symm.trans hnext

namespace WebSocket

variable {u : Utf8Crate} {w w' : WebSocket} {f : Frame}

/-- The type of the message that has been received in part. -/
def receiving (w : WebSocket) : Option IncompleteMessageType :=
  w.context.incomplete.map IncompleteMessage.type

/-- The largest frame that is read. -/
def maxSize (w : WebSocket) : Nat := w.context.config.maxFrameSize.getD usizeMax

/-- A frame is stranded in what there is to be read. -/
def StrandsFrame (w : WebSocket) : Prop :=
  Strands w.maxSize w.receiving w.context.frame w.socket.answers.reads

/-- It does not matter what is written. -/
theorem StrandsFrame.sameInput (h : w.StrandsFrame) (hinput : w'.input = w.input) :
    w'.StrandsFrame := by
  have hmax : w'.maxSize = w.maxSize :=
    congrArg (fun i : Input ↦ i.config.maxFrameSize.getD usizeMax) hinput
  have hreceiving : w'.receiving = w.receiving :=
    congrArg (fun i : Input ↦ i.incomplete.map IncompleteMessage.type) hinput
  have hreads : w'.socket.answers.reads = w.socket.answers.reads := congrArg Input.reads hinput
  rw [StrandsFrame, hmax, hreceiving, hreads]
  exact Strands.sameInput h ⟨congrArg Input.inBuffer hinput, congrArg Input.header hinput⟩

/-! ## What is incomplete -/

theorem type_extend {m m' : IncompleteMessage} {tail : Bytes} {limit : Option Nat}
    (h : m.extend u tail limit = (.ok (), m')) : m'.type = m.type := by
  cases m with
  | binary buffer =>
      rw [IncompleteMessage.extend] at h
      split at h
      · cases h
      · cases h
        rfl
  | text t =>
      rw [IncompleteMessage.extend] at h
      split at h
      · cases h
      · obtain rfl : IncompleteMessage.text _ = m' := congrArg Prod.snd h
        rfl

/-- Only a binary message is completed to one. -/
theorem type_complete {m : IncompleteMessage} {data : Bytes} (h : m.complete = .ok (.binary data)) :
    m.type = .binary := by
  cases m with
  | binary buffer => rfl
  | text t =>
      rw [IncompleteMessage.complete] at h
      cases ht : t.intoString with
      | error e =>
          rw [ht] at h
          cases h
      | ok string =>
          rw [ht] at h
          cases h

/-- A frame that is joined to a message: it is completed, or goes on. -/
theorem joined {m : IncompleteMessage} {isFinal : Bool} {message : Option Message}
    {incomplete : Option IncompleteMessage}
    (h : (if isFinal then (m.complete.map some, none) else (.ok none, some m) :
      Except Error (Option Message) × Option IncompleteMessage) = (.ok message, incomplete)) :
    incomplete.map IncompleteMessage.type = (if isFinal then none else some m.type) ∧
      ∀ data, message = some (.binary data) → isFinal = true ∧ m.type = .binary := by
  cases isFinal with
  | false =>
      cases h
      exact ⟨rfl, nofun⟩
  | true =>
      have hcomplete : m.complete.map some = .ok message := congrArg Prod.fst h
      obtain rfl : none = incomplete := congrArg Prod.snd h
      refine ⟨rfl, ?_⟩
      rintro data rfl
      obtain ⟨completed, hm, hsome⟩ := map_eq_ok.1 hcomplete
      cases hsome
      exact ⟨rfl, type_complete hm⟩

/-- **What a data frame leaves**, and which one ends a binary message. -/
theorem dataFrame_ok {limit : Option Nat} {incomplete incomplete' : Option IncompleteMessage}
    {d : Data} {message : Option Message} (hd : f.header.opcode = .data d)
    (h : dataFrame u limit incomplete d f = (.ok message, incomplete')) :
    incomplete'.map IncompleteMessage.type = f.leaves (incomplete.map IncompleteMessage.type) ∧
      ∀ data, message = some (.binary data) →
        f.EndsBinary (incomplete.map IncompleteMessage.type) := by
  have hfirst : ∀ {type : IncompleteMessageType},
      firstFragment u limit type f = (.ok message, incomplete') →
        incomplete'.map IncompleteMessage.type = (if f.header.isFinal then none else some type) ∧
          ∀ data, message = some (.binary data) → f.header.isFinal = true ∧ type = .binary := by
    intro type hfragment
    rw [firstFragment] at hfragment
    generalize hextend : (IncompleteMessage.new type).extend u f.payload limit = out at hfragment
    obtain ⟨r, m⟩ := out
    cases r with
    | error e => cases hfragment
    | ok _ =>
        have htype : m.type = type := by
          rw [type_extend hextend]
          cases type <;> rfl
        rw [← htype]
        exact joined hfragment
  rw [Frame.leaves, hd]
  cases incomplete with
  | none =>
      cases d with
      | «continue» => cases h
      | text =>
          obtain ⟨hleaves, hends⟩ := hfirst h
          exact ⟨hleaves, fun data hdata ↦ nomatch (hends data hdata).2⟩
      | binary =>
          obtain ⟨hleaves, hends⟩ := hfirst h
          exact ⟨hleaves, fun data hdata ↦ ⟨(hends data hdata).1, .inl hd⟩⟩
      | reserved i => cases h
  | some m =>
      cases d with
      | «continue» =>
          rw [dataFrame] at h
          generalize hextend : m.extend u f.payload limit = out at h
          obtain ⟨r, m'⟩ := out
          cases r with
          | error e => cases h
          | ok _ =>
              obtain ⟨hleaves, hends⟩ := joined h
              rw [type_extend hextend] at hleaves hends
              refine ⟨hleaves, fun data hdata ↦ ⟨(hends data hdata).1, .inr ⟨hd, ?_⟩⟩⟩
              exact congrArg some (hends data hdata).2
      | text => cases h
      | binary => cases h
      | reserved i => cases h

/-- What a frame is dealt with as, if it is not refused. -/
structure Told (f : Frame) (w : WebSocket) (message : Option Message) (w' : WebSocket) : Prop where
  maxSize : w'.maxSize = w.maxSize
  receiving : w'.receiving = f.leaves w.receiving
  binary : ∀ data, message = some (.binary data) → f.EndsBinary w.receiving
  close : f.header.opcode = .control .close → ∃ code, message = some (.close code)

/-- Whoever can read is told of a close frame. -/
theorem ensures_doClose (hread : w.context.state.canRead = true) (close : Option CloseFrame) :
    (doClose close).Ensures w fun r w' ↦ ∃ code, r = .ok (some code) ∧ SameReader w w' := by
  obtain ⟨close', w', hattempt, hsame, -⟩ := doClose_canRead hread close
  rw [EStateM.Ensures, hattempt]
  exact ⟨close', rfl, hsame⟩

/-- A control frame leaves the message that is received alone. -/
theorem ensures_controlFrame (hread : w.context.state.canRead = true) (ctl : Control) (f : Frame) :
    (controlFrame ctl f).Ensures w fun r w' ↦ ∀ message, r = .ok message →
      SameReader w w' ∧ (∀ data, message ≠ some (.binary data)) ∧
        (ctl = .close → ∃ code, message = some (.close code)) := by
  have herror : ∀ e : Error, (throw e : Io (Option Message)).Ensures w fun r w' ↦
      ∀ message, r = .ok message → SameReader w w' ∧ (∀ data, message ≠ some (.binary data)) ∧
        (ctl = .close → ∃ code, message = some (.close code)) := by
    rintro e message ⟨⟩
  refine EStateM.Ensures.ite (fun _ ↦ herror _) fun _ ↦
    EStateM.Ensures.ite (fun _ ↦ herror _) fun _ ↦ ?_
  cases ctl with
  | close =>
      show EStateM.Ensures (EStateM.ofExcept f.intoClose >>= _) w _
      cases f.intoClose with
      | error e => exact herror e
      | ok close =>
          refine (ensures_doClose hread close).bind ?_ ?_
          · rintro reply w' ⟨code, hreply, hsame⟩ message hmessage
            cases hreply
            cases hmessage
            exact ⟨hsame, by rintro data ⟨⟩, fun _ ↦ ⟨_, rfl⟩⟩
          · rintro e w' ⟨code, herror, -⟩
            cases herror
  | reserved i => exact herror _
  | ping =>
      have hping : ∀ w', SameReader w w' → ∀ message,
          (Except.ok (some (Message.ping f.payload)) : Except Error _) = .ok message →
            SameReader w w' ∧ (∀ data, message ≠ some (.binary data)) ∧
              (Control.ping = .close → ∃ code, message = some (.close code)) := by
        rintro w' hsame message hmessage
        cases hmessage
        exact ⟨hsame, by rintro data ⟨⟩, by rintro ⟨⟩⟩
      refine EStateM.Ensures.get_bind (EStateM.Ensures.ite (fun _ ↦ ?_) fun _ ↦ ?_)
      · rw [EStateM.Ensures, EStateM.attempt_bind_ok (attempt_setAdditional _ _ _)]
        exact hping _ (SameReader.answeredBy _ w)
      · exact hping w ⟨rfl, rfl, rfl⟩
  | pong =>
      rintro message hmessage
      cases hmessage
      exact ⟨⟨rfl, rfl, rfl⟩, by rintro data ⟨⟩, by rintro ⟨⟩⟩

/-- **What a frame is dealt with as**, if it is not refused. -/
theorem ensures_processFrame (f : Frame) (w : WebSocket) :
    (processFrame u f).Ensures w fun r w' ↦ ∀ message, r = .ok message → Told f w message w' := by
  have herror : ∀ e : Error, (throw e : Io (Option Message)).Ensures w fun r w' ↦
      ∀ message, r = .ok message → Told f w message w' := by
    rintro e message ⟨⟩
  refine EStateM.Ensures.get_bind (EStateM.Ensures.ite (fun _ ↦ herror _) fun hread ↦
    EStateM.Ensures.ite (fun _ ↦ herror _) fun _ ↦ ?_)
  rw [not_not] at hread
  show EStateM.Ensures (EStateM.ofExcept (unmask _ _ f) >>= _) w _
  rcases unmask_spec w.context.role w.context.config.acceptUnmaskedFrames f with
    ⟨hunmask, -⟩ | ⟨⟨e, hunmask⟩, -⟩
  · rw [hunmask]
    obtain ⟨hopcode, hfinal⟩ := header_applyMask f
    refine EStateM.Ensures.ofExcept_bind rfl ?_
    cases hkind : f.header.opcode with
    | control ctl =>
        simp only [hopcode, hkind]
        refine (ensures_controlFrame hread ctl f.applyMask).mono fun r w' h message hmessage ↦ ?_
        obtain ⟨hsame, hbinary, hclose⟩ := h message hmessage
        refine ⟨?_, ?_, fun data hdata ↦ absurd hdata (hbinary data), fun hctl ↦ ?_⟩
        · rw [maxSize, hsame.config]
          rfl
        · rw [receiving, hsame.incomplete, Frame.leaves, hkind]
          rfl
        · rw [hkind] at hctl
          exact hclose (OpCode.control.inj hctl)
    | data d =>
        simp only [hopcode, hkind]
        refine EStateM.Ensures.set_bind (EStateM.Ensures.ofExcept fun message hmessage ↦ ?_)
        have hdata := dataFrame_ok (hopcode.trans hkind) (Prod.ext hmessage rfl)
        refine ⟨rfl, ?_, fun data hbinary ↦ ?_, fun hctl ↦ ?_⟩
        · have hleaves : f.leaves w.receiving = f.applyMask.leaves w.receiving := by
            rw [Frame.leaves, Frame.leaves, hopcode, hfinal]
          rw [hleaves]
          exact hdata.1
        · obtain ⟨hends, hkinds⟩ := hdata.2 data hbinary
          rw [hfinal] at hends
          rw [hopcode] at hkinds
          exact ⟨hends, hkinds⟩
        · rw [hkind] at hctl
          cases hctl
  · rw [hunmask]
    exact herror e

/-! ## One frame -/

/-- What the codec hands over, where nothing is stranded. -/
theorem readLoop_strands {maxSize : Nat} {t : Option IncompleteMessageType} {c : FrameCodec}
    {reads : List ReadCall} (h : ¬ Strands maxSize t c reads) :
    ((c.readLoop maxSize reads).result = .error (.io .wouldBlock) →
        (c.readLoop maxSize reads).codec.holdsFrame = false) ∧
      ∀ f, (c.readLoop maxSize reads).result = .ok (some f) →
        (f.header.opcode ≠ .control .close → ¬ Strands maxSize (f.leaves t)
          (c.readLoop maxSize reads).codec (c.readLoop maxSize reads).reads) ∧
        (f.EndsBinary t → (c.readLoop maxSize reads).reads = [] →
          (c.readLoop maxSize reads).codec.holdsFrame = false) := by
  revert h
  refine FrameCodec.readLoop_cases (P := fun c reads out ↦ ¬ Strands maxSize t c reads →
    (out.result = .error (.io .wouldBlock) → out.codec.holdsFrame = false) ∧
      ∀ f, out.result = .ok (some f) →
        (f.header.opcode ≠ .control .close → ¬ Strands maxSize (f.leaves t) out.codec out.reads) ∧
        (f.EndsBinary t → out.reads = [] → out.codec.holdsFrame = false)) ?_ ?_ ?_ ?_ ?_ c reads
  · intro c c' r reads hnext _ h
    constructor
    · rintro rfl
      exact absurd hnext FrameCodec.nextFrame_ne_io
    · rintro f rfl
      refine ⟨fun hclose hstrands ↦ h (.frame hnext hclose hstrands), ?_⟩
      rintro hends rfl
      rw [← Bool.not_eq_true]
      exact fun hholds ↦ h (.here hnext hends hholds)
  · exact fun c c' hnext _ ↦ ⟨fun _ ↦ FrameCodec.holdsFrame_of_idle hnext, by rintro f ⟨⟩⟩
  · exact fun c c' kind reads hnext _ ↦
      ⟨fun _ ↦ FrameCodec.holdsFrame_of_idle hnext, by rintro f ⟨⟩⟩
  · exact fun c c' reads hnext _ ↦ ⟨by rintro ⟨⟩, by rintro f ⟨⟩⟩
  · exact fun c c' data reads out hnext hdata ih h ↦
      ih fun hstrands ↦ h (.read hnext hdata hstrands)

/-! ## `read` -/

/-- Nothing is left behind by what has been read, if anything, or would block. -/
structure Leaves (r : Except Error (Option Message)) (w : WebSocket) : Prop where
  blocked : r = .error (.io .wouldBlock) → w.context.frame.holdsFrame = false
  goesOn : ∀ message, r = .ok message → (∀ code, message ≠ some (.close code)) → ¬ w.StrandsFrame
  drained : ∀ data, r = .ok (some (.binary data)) → w.socket.answers.reads = [] →
    w.context.frame.holdsFrame = false

/-- A failure has read nothing. -/
theorem Leaves.of_error {e : Error}
    (h : e = .io .wouldBlock → w.context.frame.holdsFrame = false) : Leaves (.error e) w where
  blocked he := h (Except.error.inj he)
  goesOn _ he := by cases he
  drained _ he := by cases he

/-- One frame, or none. -/
theorem leaves_readMessageFrame (h : ¬ w.StrandsFrame) :
    (readMessageFrame u).Ensures w fun r w' ↦ Leaves r w' := by
  obtain ⟨hblocks, hframe⟩ := readLoop_strands h
  rcases hread : w.frameRead.result with e | _ | f
  · refine (ensures_readMessageFrame w).mono ?_
    rintro r w' (⟨f, hf, -⟩ | ⟨hnone, -⟩ | ⟨e', he', rfl, rfl⟩)
    · cases hread.symm.trans hf
    · cases hread.symm.trans hnone
    · refine .of_error fun hr ↦ hblocks ?_
      split at hr
      · cases hr
      · cases hr
        exact he'
  · refine (ensures_readMessageFrame w).mono ?_
    rintro r w' (⟨f, hf, -⟩ | ⟨-, -, rfl⟩ | ⟨e', he', -⟩)
    · cases hread.symm.trans hf
    · refine .of_error fun hr ↦ ?_
      split at hr
      · cases hr
      · cases hr
    · cases hread.symm.trans he'
  · obtain ⟨hgoes, hends⟩ := hframe f hread
    rw [EStateM.Ensures, readMessageFrame_frame hread]
    refine ((ensures_processFrame f w.received).and (deals_processFrame f w.received)).mono ?_
    rintro r w' ⟨htold, hanswered, hverdict⟩
    obtain ⟨hsocket, hcodec, -⟩ := hanswered.codec
    refine ⟨?_, ?_, ?_⟩
    · rintro rfl
      cases hverdict _ rfl
    · intro message hmessage hnot hstrands
      have htold' := htold message hmessage
      rw [StrandsFrame, htold'.maxSize, htold'.receiving, hcodec, hsocket] at hstrands
      refine hgoes (fun hclose ↦ ?_) hstrands
      obtain ⟨code, hcode⟩ := htold'.close hclose
      exact hnot code hcode
    · intro data hdata hreads
      rw [hsocket] at hreads
      rw [hcodec]
      exact hends ((htold _ hdata).binary data rfl) hreads

/-- What comes before a frame is read does not block. -/
theorem beforeRead_ne_wouldBlock (w : WebSocket) :
    beforeRead.Ensures w fun r _ ↦ r ≠ .error (.io .wouldBlock) := by
  have hnoBlock : ∀ m : Io Unit, (noBlock m).Ensures w fun r _ ↦ r ≠ .error (.io .wouldBlock) := by
    intro m
    rw [EStateM.Ensures, noBlock, EStateM.attempt_tried_bind]
    split
    · rintro ⟨⟩
    · rename_i hne
      rw [EStateM.attempt_ofExcept]
      exact hne
  refine EStateM.Ensures.get_bind (EStateM.Ensures.ite (fun _ ↦ hnoBlock flush) fun _ ↦
    EStateM.Ensures.ite (fun _ ↦ ?_) fun _ ↦ ?_)
  · refine EStateM.Ensures.set_bind ?_
    rintro ⟨⟩
  · rintro ⟨⟩

theorem leaves_readLoop (fuel : Nat) (h : ¬ w.StrandsFrame) :
    (readLoop u fuel).Ensures w fun r w' ↦ Leaves (r.map some) w' := by
  induction fuel generalizing w with
  | zero => exact .of_error (by rintro ⟨⟩)
  | succ fuel ih =>
      refine ((flushes_beforeRead w).and (beforeRead_ne_wouldBlock w)).bind ?_ ?_
      · rintro _ w₁ ⟨⟨hflushed, -⟩, -⟩
        have h₁ : ¬ w₁.StrandsFrame := fun hstrands ↦ h (hstrands.sameInput hflushed.input.symm)
        refine (leaves_readMessageFrame h₁).bind ?_ ?_
        · intro message w₂ hleaves
          cases message with
          | some message => exact hleaves
          | none => exact ih (hleaves.goesOn none rfl (by rintro code ⟨⟩))
        · intro e w₂ hleaves
          exact .of_error fun he ↦ hleaves.blocked (congrArg _ he)
      · rintro e w₁ ⟨-, hne⟩
        exact .of_error fun he ↦ absurd (congrArg _ he) hne

/-- **`read` leaves nothing behind**, where nothing is stranded. -/
theorem leaves_read (h : ¬ w.StrandsFrame) :
    (read u).Ensures w fun r w' ↦ Leaves (r.map some) w' := by
  refine EStateM.Ensures.get_bind ?_
  show EStateM.Ensures (EStateM.ofExcept w.context.state.checkNotTerminated >>= _) w _
  cases hstate : w.context.state with
  | terminated => exact .of_error (by rintro ⟨⟩)
  | active => exact leaves_readLoop w.readFuel h
  | closedByUs => exact leaves_readLoop w.readFuel h
  | closedByPeer => exact leaves_readLoop w.readFuel h
  | closeAcknowledged => exact leaves_readLoop w.readFuel h

/-! ## What is written -/

/-- A message that is sent leaves the input alone. -/
theorem input_send (w : WebSocket) (data : Bytes) :
    (send (.binary data)).Ensures w fun _ w' ↦ w'.input = w.input := by
  have hwrite : (write (.binary data)).Ensures w fun _ w' ↦ w'.input = w.input := by
    by_cases hactive : w.context.state = .active
    · have hframe : (writeFrame (.message data .binary true)).Ensures w
          fun _ w' ↦ w'.input = w.input := by
        refine (ensures_writeFrame (.message data .binary true) w).mono ?_
        rintro r w' (⟨-, -, rfl⟩ | ⟨-, hflushed⟩)
        · rfl
        · exact hflushed.input
      rw [EStateM.Ensures, attempt_write_active hactive]
      exact hframe
    · obtain ⟨e, -, hattempt⟩ := attempt_write_inactive hactive (.binary data)
      rw [EStateM.Ensures, hattempt]
  exact hwrite.bind (fun _ w₁ h₁ ↦ (flushes_flush w₁).mono fun _ _ h₂ ↦ h₂.1.input.trans h₁)
    fun _ _ h ↦ h

end WebSocket

end Ws

end MessageIo
