import MessageIo.Protocol.Grammar
import MessageIo.Protocol.Replies

/-!
# What is written is read

Messages that one side writes and flushes are the messages that the other side reads, however its
stream takes the bytes and however they arrive.

* On the way are frames: `Coming` says that a codec and the rest of its stream hold these frames.
  It is kept by `readLoop`, which hands them over one by one.
* A message is carried by a frame (`Carries`), which the other side takes for the message.
* The writer keeps the order (`Outgoing`), but for a pong that finds the buffer of output full: it
  waits in `additionalSend`, where the next pong replaces it and where later messages overtake it.
-/

namespace MessageIo

namespace Ws

/-! ## Frames on the way -/

/-- **A stream gives these bytes**, in chunks and with breaks. -/
inductive Chunks : Bytes → List ReadCall → Prop
  | nil : Chunks [] []
  | block {bytes : Bytes} {reads : List ReadCall} (h : Chunks bytes reads) :
      Chunks bytes (.err .wouldBlock :: reads)
  | chunk {data bytes : Bytes} {reads : List ReadCall} (hdata : data ≠ [])
      (h : Chunks bytes reads) :
      Chunks (data ++ bytes) (.ok data :: reads)

/-- A frame as it is read, with its mask on. -/
def Frame.onWire (f : Frame) : Frame := ⟨f.header, f.applyMask.payload⟩

/-- A frame that a codec lets pass. -/
structure Frame.Passes (maxSize : Nat) (f : Frame) : Prop where
  defined : f.header.opcode.isDefined
  size : f.payload.length ≤ maxSize

namespace FrameCodec

/-- **Frames are coming**: they are in the buffer of input and in what the stream has to give. -/
inductive Coming (c : FrameCodec) (tail : Bytes) : List Frame → Prop
  | between {frames : List Frame} (h : c.header = none)
      (hbytes : c.inBuffer ++ tail = frames.flatMap Frame.format) : Coming c tail frames
  | inside {f : Frame} {frames : List Frame} (h : c.header = some (f.header, f.payload.length))
      (hbytes : c.inBuffer ++ tail = f.applyMask.payload ++ frames.flatMap Frame.format) :
      Coming c tail (f :: frames)

variable {maxSize : Nat} {c : FrameCodec} {tail : Bytes} {f : Frame} {frames : List Frame}

/-- What is read moves from the stream to the buffer. -/
theorem Coming.fed {data : Bytes} (h : c.Coming (data ++ tail) frames) :
    (c.fed data).Coming tail frames := by
  have hassoc : (c.fed data).inBuffer ++ tail = c.inBuffer ++ (data ++ tail) :=
    List.append_assoc _ _ _
  cases h with
  | between h hbytes => exact .between h (hassoc.trans hbytes)
  | inside h hbytes => exact .inside h (hassoc.trans hbytes)

/-- It is a matter of the input. -/
theorem Coming.sameInput {c' : FrameCodec} (h : c.Coming tail frames) (hsame : c.SameInput c') :
    c'.Coming tail frames := by
  cases h with
  | between h hbytes =>
      rw [← hsame.inBuffer] at hbytes
      exact .between (hsame.header.trans h) hbytes
  | inside h hbytes =>
      rw [← hsame.inBuffer] at hbytes
      exact .inside (hsame.header.trans h) hbytes

/-- With no frame coming, there is nothing. -/
theorem Coming.nil (h : c.Coming tail []) : c.nextFrame maxSize = (.ok none, c) ∧ tail = [] := by
  cases h with
  | between hheader hbytes =>
      obtain ⟨hin, htail⟩ := List.append_eq_nil_iff.1 hbytes
      refine ⟨?_, htail⟩
      obtain ⟨inBuffer, outBuffer, maxLen, writeLen, header⟩ := c
      cases hin
      cases hheader
      rfl

/-- **The header** of the next frame is read as soon as it is there. -/
theorem Coming.nextHeader (hsize : maxSize < 2 ^ 64) (hf : f.Passes maxSize)
    (h : c.Coming tail (f :: frames)) :
    (c.nextHeader = (.ok none, c) ∧ c.header = none ∧ tail ≠ []) ∨
      ∃ c', c.nextHeader = (.ok (some (f.header, f.payload.length)), c') ∧
        c'.header = some (f.header, f.payload.length) ∧
        c'.inBuffer ++ tail = f.applyMask.payload ++ frames.flatMap Frame.format := by
  cases h with
  | inside hheader hbytes => exact .inr ⟨c, nextHeader_some hheader, hheader, hbytes⟩
  | between hheader hbytes =>
      have hlength : f.payload.length < 2 ^ 64 := lt_of_le_of_lt hf.size hsize
      rw [nextHeader_none hheader]
      rw [List.flatMap_cons, Frame.format, List.append_assoc] at hbytes
      rcases List.append_eq_append_iff.1 hbytes with ⟨more, hmore, htail⟩ | ⟨more, hmore, hrest⟩
      · cases more with
        | nil =>
            rw [List.append_nil] at hmore
            have hparse := FrameHeader.parse_format hf.defined hlength []
            rw [List.append_nil, hmore] at hparse
            rw [hparse]
            exact .inr ⟨_, rfl, rfl, htail⟩
        | cons b more =>
            have hnone := FrameHeader.parse_of_lt hf.defined hlength (List.cons_ne_nil b more)
              hmore.symm
            rw [hnone]
            refine .inl ⟨?_, hheader, ?_⟩
            · rw [← hheader]
            · rw [htail]
              exact List.cons_ne_nil _ _
      · rw [hmore, FrameHeader.parse_format hf.defined hlength]
        exact .inr ⟨_, rfl, rfl, hrest.symm⟩

/-- **The next frame** is handed over as soon as it is there. -/
theorem Coming.nextFrame (hsize : maxSize < 2 ^ 64) (hf : f.Passes maxSize)
    (h : c.Coming tail (f :: frames)) :
    (∃ c', c.nextFrame maxSize = (.ok none, c') ∧ c'.Coming tail (f :: frames) ∧ tail ≠ []) ∨
      ∃ c', c.nextFrame maxSize = (.ok (some f.onWire), c') ∧ c'.Coming tail frames := by
  rcases h.nextHeader hsize hf with ⟨hnone, -, htail⟩ | ⟨c', hsome, hheader, hbytes⟩
  · refine .inl ⟨c, ?_, h, htail⟩
    rw [FrameCodec.nextFrame, hnone]
  · rw [FrameCodec.nextFrame, hsome]
    simp only
    rw [if_neg (Nat.not_lt.2 hf.size)]
    have hpayload := f.length_payload_applyMask
    by_cases hwhole : f.payload.length ≤ c'.inBuffer.length
    · have htake : c'.inBuffer.take f.payload.length = f.applyMask.payload := by
        rw [← List.take_append_of_le_length hwhole, hbytes, List.take_left' hpayload]
      have hdrop : c'.inBuffer.drop f.payload.length ++ tail = frames.flatMap Frame.format := by
        rw [← List.drop_append_of_le_length hwhole, hbytes, List.drop_left' hpayload]
      rw [if_pos hwhole, htake]
      exact .inr ⟨_, rfl, .between rfl hdrop⟩
    · rw [if_neg hwhole]
      refine .inl ⟨c', rfl, .inside hheader hbytes, ?_⟩
      rintro rfl
      have hlength := congrArg List.length hbytes
      rw [List.append_nil, List.length_append, hpayload] at hlength
      omega

/-- More has to be read, or the next frame is there. -/
theorem Coming.next (hsize : maxSize < 2 ^ 64) (hframes : ∀ f ∈ frames, f.Passes maxSize)
    (h : c.Coming tail frames) :
    (∃ c', c.nextFrame maxSize = (.ok none, c') ∧ c'.Coming tail frames ∧
        (frames ≠ [] → tail ≠ [])) ∨
      ∃ f rest c', frames = f :: rest ∧ c.nextFrame maxSize = (.ok (some f.onWire), c') ∧
        c'.Coming tail rest := by
  cases frames with
  | nil => exact .inl ⟨c, h.nil.1, h, fun hne ↦ absurd rfl hne⟩
  | cons f rest =>
      rcases h.nextFrame hsize (hframes f List.mem_cons_self) with
        ⟨c', hnone, hcoming, htail⟩ | ⟨c', hsome, hcoming⟩
      · exact .inl ⟨c', hnone, hcoming, fun _ ↦ htail⟩
      · exact .inr ⟨f, rest, c', rfl, hsome, hcoming⟩

/-- What reading frames that are coming ends with: the next one, or a break in the stream. -/
structure Hands (frames : List Frame) (reads : List ReadCall) (out : FrameRead) : Prop where
  chunks : ∃ tail, Chunks tail out.reads ∧
    ((out.result = .error (.io .wouldBlock) ∧ out.codec.Coming tail frames ∧
        (frames ≠ [] → out.reads.length < reads.length)) ∨
      ∃ f rest, frames = f :: rest ∧ out.result = .ok (some f.onWire) ∧ out.codec.Coming tail rest)
  length : out.reads.length ≤ reads.length

/-- **Frames that are coming are handed over**, whatever the chunks. -/
theorem hands_readLoop (hsize : maxSize < 2 ^ 64) {reads : List ReadCall}
    (hframes : ∀ f ∈ frames, f.Passes maxSize) (hchunks : Chunks tail reads)
    (h : c.Coming tail frames) : Hands frames reads (c.readLoop maxSize reads) := by
  -- A chunk that does not complete the next frame moves to the buffer of input.
  induction hchunks generalizing c with
  | nil =>
      rcases h.next hsize hframes with
        ⟨c', hnone, hcoming, htail⟩ | ⟨f, rest, c', rfl, hsome, hcoming⟩
      · rw [readLoop_nil hnone]
        exact ⟨⟨_, .nil, .inl ⟨rfl, hcoming, fun hne ↦ absurd rfl (htail hne)⟩⟩, Nat.le_refl _⟩
      · rw [readLoop_done hsome nofun]
        exact ⟨⟨_, .nil, .inr ⟨f, rest, rfl, rfl, hcoming⟩⟩, Nat.le_refl _⟩
  | @block tail reads hchunks ih =>
      rcases h.next hsize hframes with ⟨c', hnone, hcoming, -⟩ | ⟨f, rest, c', rfl, hsome, hcoming⟩
      · rw [readLoop_err hnone]
        exact ⟨⟨_, hchunks, .inl ⟨rfl, hcoming, fun _ ↦ Nat.lt_succ_self _⟩⟩, Nat.le_succ _⟩
      · rw [readLoop_done hsome nofun]
        exact ⟨⟨_, .block hchunks, .inr ⟨f, rest, rfl, rfl, hcoming⟩⟩, Nat.le_refl _⟩
  | @chunk data tail reads hdata hchunks ih =>
      rcases h.next hsize hframes with ⟨c', hnone, hcoming, -⟩ | ⟨f, rest, c', rfl, hsome, hcoming⟩
      · rw [readLoop_more hnone hdata]
        have hout := ih hcoming.fed
        refine ⟨?_, hout.length.trans (Nat.le_succ _)⟩
        obtain ⟨tail', htail, ⟨hblock, hcoming', hlt⟩ | hframe⟩ := hout.chunks
        · exact ⟨tail', htail,
            .inl ⟨hblock, hcoming', fun hne ↦ (hlt hne).trans (Nat.lt_succ_self _)⟩⟩
        · exact ⟨tail', htail, .inr hframe⟩
      · rw [readLoop_done hsome nofun]
        exact ⟨⟨_, .chunk hdata hchunks, .inr ⟨f, rest, rfl, rfl, hcoming⟩⟩, Nat.le_refl _⟩

end FrameCodec

/-! ## Messages on the way -/

/-- **The frame that is written for a message**, if it is not too big. -/
inductive Sendable : Message → Frame → Prop
  | text {s : String} (h : (Utf8.encode s).length ≤ 16 <<< 20) :
      Sendable (.text s) (.message (Utf8.encode s) .text true)
  | binary {b : Bytes} (h : b.length ≤ 16 <<< 20) :
      Sendable (.binary b) (.message b .binary true)
  | ping {b : Bytes} (h : b.length ≤ 125) : Sendable (.ping b) (.ping b)
  | pong {b : Bytes} (h : b.length ≤ 125) : Sendable (.pong b) (.pong b)

/-- **A frame carries a message**, from a side with this role. -/
def Carries (role : Role) (m : Message) (g : Frame) : Prop :=
  ∃ f, Sendable m f ∧ Goes role f g

section Carries

variable {role role' : Role} {m : Message} {f g : Frame}

theorem Carries.passes (h : Carries role m g) : g.Passes (16 <<< 20) := by
  obtain ⟨f, hf, hgoes⟩ := h
  have hpayload : g.payload = f.payload := by
    cases hgoes with
    | server => rfl
    | client mask => rfl
  refine ⟨?_, ?_⟩
  · rw [hgoes.opcode]
    cases hf with
    | text => rfl
    | binary => rfl
    | ping => rfl
    | pong => rfl
  · rw [hpayload]
    cases hf with
    | text h => exact h
    | binary h => exact h
    | ping h => exact h.trans (by decide)
    | pong h => exact h.trans (by decide)

/-- The other side takes the mask off. -/
theorem Sendable.applyMask_onWire (hf : Sendable m f) (hgoes : Goes role f g) :
    g.onWire.applyMask = f := by
  have hmask : f.header.mask = none := by
    cases hf with
    | text => rfl
    | binary => rfl
    | ping => rfl
    | pong => rfl
  obtain ⟨⟨isFinal, rsv1, rsv2, rsv3, opcode, mask⟩, payload⟩ := f
  cases hmask
  cases hgoes with
  | server => rfl
  | client mask =>
      show (⟨⟨isFinal, rsv1, rsv2, rsv3, opcode, none⟩,
        Ws.applyMask (Ws.applyMask payload mask) mask⟩ : Frame) = _
      rw [applyMask_applyMask]

/-- What the other side sees of the frame. -/
theorem Sendable.onWire (hf : Sendable m f) (hgoes : Goes role f g) :
    g.onWire.header.opcode = f.header.opcode ∧ g.onWire.header.isFinal = true ∧
      ¬ (g.onWire.header.rsv1 ∨ g.onWire.header.rsv2 ∨ g.onWire.header.rsv3) ∧
      (g.onWire.isMasked ↔ role = .client) ∧ g.onWire.payload.length = f.payload.length := by
  have hpayload := congrArg (·.payload.length) (hf.applyMask_onWire hgoes)
  simp only [Frame.length_payload_applyMask] at hpayload
  have hno : ¬ (false = true ∨ false = true ∨ false = true) := by decide
  have hheader : f.header.isFinal = true ∧
      ¬ (f.header.rsv1 ∨ f.header.rsv2 ∨ f.header.rsv3) ∧ f.header.mask = none := by
    cases hf with
    | text => exact ⟨rfl, hno, rfl⟩
    | binary => exact ⟨rfl, hno, rfl⟩
    | ping => exact ⟨rfl, hno, rfl⟩
    | pong => exact ⟨rfl, hno, rfl⟩
  obtain ⟨hfinal, hreserved, hmask⟩ := hheader
  cases hgoes with
  | server =>
      refine ⟨rfl, hfinal, hreserved, iff_of_false ?_ (by rintro ⟨⟩), hpayload⟩
      rw [Frame.isMasked]
      show ¬ f.header.mask.isSome = true
      rw [hmask]
      rintro ⟨⟩
  | client mask => exact ⟨rfl, hfinal, hreserved, iff_of_true rfl rfl, hpayload⟩

theorem Carries.isClose (h : Carries role m g) : g.onWire.isClose = false := by
  obtain ⟨f, hf, hgoes⟩ := h
  rw [Frame.isClose, (hf.onWire hgoes).1]
  cases hf with
  | text => rfl
  | binary => rfl
  | ping => rfl
  | pong => rfl

/-- **The other side accepts the frame**, for the message that it carries. -/
theorem Carries.brings (h : Carries role m g) (hrole : role' ≠ role) :
    g.onWire.Admissible role' false ∧ Brings (64 <<< 20) none g.onWire (some m) none := by
  obtain ⟨f, hf, hgoes⟩ := h
  obtain ⟨hopcode, hfinal, hreserved, hmasked, hlength⟩ := hf.onWire hgoes
  have hbare := hf.applyMask_onWire hgoes
  have hserver : role' = .server → g.onWire.isMasked ∨ false = true := by
    rintro rfl
    cases role with
    | server => exact absurd rfl hrole
    | client => exact .inl (hmasked.2 rfl)
  have hclient : role' = .client → ¬ g.onWire.isMasked := by
    rintro rfl hmask
    exact hrole (hmasked.1 hmask).symm
  have hadmissible : (∀ c, f.header.opcode = .control c → f.payload.length ≤ 125) →
      f.header.opcode.isDefined → f.header.opcode ≠ .control .close →
      g.onWire.Admissible role' false := by
    intro hcontrol hdefined hclose
    refine ⟨⟨hreserved, hserver, hclient, ?_⟩, ?_, ?_⟩
    · intro c hc
      rw [hlength]
      exact ⟨hfinal, hcontrol c (hopcode.symm.trans hc)⟩
    · rw [hopcode]
      exact hdefined
    · intro hisClose
      rw [Frame.isClose, hopcode] at hisClose
      exact absurd (of_decide_eq_true hisClose) hclose
  have hle : ∀ {n : Nat}, n ≤ 16 <<< 20 → n ≤ 64 <<< 20 := fun h ↦ h.trans (by decide)
  cases hf with
  | @text s h =>
      refine ⟨hadmissible (by rintro c ⟨⟩) rfl (by rintro ⟨⟩), .data hopcode ?_⟩
      rw [hbare, hfinal]
      exact .message .text ⟨hle h, fun _ ↦ (Utf8.valid_encode s).viable⟩ (.text rfl)
  | binary h =>
      refine ⟨hadmissible (by rintro c ⟨⟩) rfl (by rintro ⟨⟩), .data hopcode ?_⟩
      rw [hbare, hfinal]
      exact .message .binary ⟨hle h, by rintro ⟨⟩⟩ .binary
  | @ping b h =>
      have hbrings : Brings (64 <<< 20) none g.onWire _ none := .ping hopcode
      rw [hbare] at hbrings
      exact ⟨hadmissible (fun _ _ ↦ h) rfl (by rintro ⟨⟩), hbrings⟩
  | pong h =>
      have hbrings : Brings (64 <<< 20) none g.onWire _ none := .pong hopcode
      rw [hbare] at hbrings
      exact ⟨hadmissible (fun _ _ ↦ h) rfl (by rintro ⟨⟩), hbrings⟩

end Carries

namespace WebSocket

variable {u : Utf8Crate} {w w' w₀ : WebSocket} {f : Frame}

/-! ## Streams that only block -/

/-- A stream that takes bytes or blocks, and does not fail. -/
structure Steady (w : WebSocket) : Prop where
  writes : ∀ call ∈ w.socket.answers.writes, call = .err .wouldBlock ∨ ∃ n, call = .ok (n + 1)
  flushes : ∀ answer ∈ w.socket.answers.flushes, answer = .ok () ∨ answer = .error .wouldBlock

/-- Writing to a steady stream fails only by blocking. -/
theorem steady_drain (out : Bytes) (writes : List WriteCall)
    (h : ∀ call ∈ writes, call = .err .wouldBlock ∨ ∃ n, call = .ok (n + 1)) :
    (∀ kind, (FrameCodec.drain out writes).result = .error (.io kind) → kind = .wouldBlock) ∧
      ∀ call ∈ (FrameCodec.drain out writes).writes, call ∈ writes := by
  induction writes generalizing out with
  | nil =>
      by_cases hnil : out = []
      · rw [hnil, FrameCodec.drain_nil]
        exact ⟨nofun, fun _ h ↦ h⟩
      · rw [FrameCodec.drain_end hnil]
        refine ⟨?_, fun _ h ↦ h⟩
        rintro kind ⟨⟩
        rfl
  | cons call writes ih =>
      have hrest := fun call hcall ↦ h call (List.mem_cons_of_mem _ hcall)
      by_cases hnil : out = []
      · rw [hnil, FrameCodec.drain_nil]
        exact ⟨nofun, fun _ h ↦ h⟩
      · rcases h call List.mem_cons_self with rfl | ⟨n, rfl⟩
        · rw [FrameCodec.drain_err hnil]
          refine ⟨?_, fun _ h ↦ List.mem_cons_of_mem _ h⟩
          rintro kind ⟨⟩
          rfl
        · rw [FrameCodec.drain_ok hnil writes (Nat.succ_pos n)]
          obtain ⟨hresult, hwrites⟩ := ih (out.drop (n + 1)) hrest
          exact ⟨hresult, fun call hcall ↦ List.mem_cons_of_mem _ (hwrites call hcall)⟩

theorem Steady.drained (h : Steady w) : Steady w.drained where
  writes := fun call hcall ↦ h.writes call ((steady_drain _ _ h.writes).2 call hcall)
  flushes := h.flushes

theorem Steady.drain (h : Steady w) {kind : ErrorKind}
    (hkind : w.drain.result = .error (.io kind)) : kind = .wouldBlock :=
  (steady_drain _ _ h.writes).1 kind hkind

/-- **A call that fails only by blocking**, if the stream does. -/
def Calm {α : Type} (m : Io α) : Prop :=
  ∀ w, Steady w → m.Ensures w fun r w' ↦
    Steady w' ∧ ∀ kind, r = .error (.io kind) → kind = .wouldBlock

theorem Calm.bind {α β : Type} {m : Io α} {next : α → Io β} (hm : Calm m)
    (hnext : ∀ a, Calm (next a)) : Calm (m >>= next) := by
  intro w h
  refine (hm w h).bind ?_ ?_
  · rintro a w' ⟨hw', -⟩
    exact hnext a w' hw'
  · rintro e w' ⟨hw', he⟩
    refine ⟨hw', ?_⟩
    rintro kind ⟨⟩
    exact he kind rfl

theorem calm_writeOutBuffer : Calm (onCodec FrameSocket.writeOutBuffer) := by
  intro w h
  rw [EStateM.Ensures, attempt_writeOutBuffer]
  exact ⟨h.drained, fun kind ↦ h.drain⟩

theorem calm_flushStream : Calm (onCodec FrameSocket.flushStream) := by
  intro w h
  rw [EStateM.Ensures, attempt_flushStream]
  refine ⟨⟨h.writes, fun answer hanswer ↦ h.flushes answer (List.mem_of_mem_tail hanswer)⟩, ?_⟩
  cases hhead : w.socket.answers.flushes.head? with
  | none => rintro kind ⟨⟩
  | some answer =>
      rcases h.flushes answer (List.mem_of_head? hhead) with rfl | rfl
      · rintro kind ⟨⟩
      · rintro kind ⟨⟩
        rfl

theorem calm_bufferFrame (f : Frame) : Calm (bufferFrame f) := by
  intro w h
  have hbuffered : Steady (w.buffered f) := ⟨h.writes, h.flushes⟩
  rw [EStateM.Ensures]
  by_cases hfits : w.Fits f
  · by_cases hlarge :
      w.context.frame.outBufferWriteLen < (w.buffered f).context.frame.outBuffer.length
    · rw [bufferFrame_large hfits hlarge]
      refine ⟨hbuffered.drained, fun kind hkind ↦ ?_⟩
      cases hresult : (w.buffered f).drain.result with
      | ok a =>
          rw [hresult] at hkind
          cases hkind
      | error e =>
          rw [hresult, checkConnectionReset_error] at hkind
          split at hkind
          · cases hkind
          · cases hkind
            exact hbuffered.drain hresult
    · rw [bufferFrame_small hfits hlarge]
      exact ⟨hbuffered, by rintro kind ⟨⟩⟩
  · rw [bufferFrame_full hfits]
    exact ⟨⟨h.writes, h.flushes⟩, by rintro kind ⟨⟩⟩

theorem calm_writeAdditional : Calm writeAdditional := by
  intro w h
  rw [EStateM.Ensures]
  cases ha : w.context.additionalSend with
  | none =>
      rw [writeAdditional_none ha]
      exact ⟨h, by rintro kind ⟨⟩⟩
  | some f =>
      by_cases hfits : w.Fits f
      · rw [writeAdditional_fits ha hfits]
        have htaken : Steady w.taken := ⟨h.writes, h.flushes⟩
        have hbuffer := calm_bufferFrame f w.taken htaken
        rw [EStateM.Ensures] at hbuffer
        generalize (bufferFrame f).attempt w.taken = out at hbuffer
        obtain ⟨r, w'⟩ := out
        refine ⟨⟨hbuffer.1.writes, hbuffer.1.flushes⟩, ?_⟩
        cases r with
        | ok a => rintro kind ⟨⟩
        | error e =>
            rintro kind ⟨⟩
            exact hbuffer.2 kind rfl
      · rw [writeAdditional_full ha hfits]
        exact ⟨⟨h.writes, h.flushes⟩, by rintro kind ⟨⟩⟩

theorem calm_endIfClosing (shouldFlush : Bool) : Calm (endIfClosing shouldFlush) := by
  refine fun w h ↦ EStateM.Ensures.get_bind (EStateM.Ensures.ite (fun _ ↦ ?_) fun _ ↦ ⟨h, nofun⟩)
  refine (calm_writeOutBuffer w h).bind ?_ fun e w' hw' ↦ ⟨hw'.1, ?_⟩
  · rintro _ w' ⟨hw', -⟩
    exact EStateM.Ensures.modify_bind ⟨⟨hw'.writes, hw'.flushes⟩, nofun⟩
  · rintro kind ⟨⟩
    exact hw'.2 kind rfl

/-- **`flush` fails only by blocking.** -/
theorem calm_flush : Calm flush :=
  (calm_writeAdditional.bind calm_endIfClosing).bind fun _ ↦
    calm_writeOutBuffer.bind fun _ ↦ calm_flushStream

/-- **Before it reads, `read` does not fail** in an active connection with a steady stream. -/
theorem beforeRead_steady (h : Steady w) (hstate : w.context.state = .active) :
    ∃ w₁, beforeRead.attempt w = (.ok (), w₁) ∧ Flushed w w₁ ∧ Steady w₁ := by
  have hread : w.context.state.canRead = true := by
    rw [hstate]
    rfl
  cases ha : w.context.additionalSend with
  | none =>
      rcases beforeRead_none ha with ⟨hclosing, -⟩ | ⟨-, hbefore⟩
      · cases hread.symm.trans hclosing.2
      · exact ⟨w, hbefore, .refl w, h⟩
  | some f =>
      have hflush := flushes_flush w
      have hcalm := calm_flush w h
      rw [EStateM.Ensures] at hflush hcalm
      refine ⟨(flush.attempt w).2, ?_, hflush.1, hcalm.1⟩
      rw [beforeRead_some ha]
      generalize (flush.attempt w).1 = r at hflush hcalm
      cases hflush.2 with
      | ok a => rfl
      | closed hclosing => cases hread.symm.trans hclosing
      | io kind =>
          cases hcalm.2 kind rfl
          rfl

/-! ## Reading -/

/-- `n` calls of `read`, one after another. -/
def reads (u : Utf8Crate) : Nat → WebSocket → List (Except Error Message) × WebSocket
  | 0, w => ([], w)
  | n + 1, w =>
      let (r, w) := (read u).attempt w
      let (rs, w) := reads u n w
      (r :: rs, w)

/-- What the other side is to receive, and the frames that carry it. -/
inductive Carried (role : Role) : List Message → List Frame → Prop
  | nil : Carried role [] []
  | cons {m : Message} {f : Frame} {messages : List Message} {frames : List Frame}
      (h : Carries role m f) (hrest : Carried role messages frames) :
      Carried role (m :: messages) (f :: frames)

theorem Carried.passes {role : Role} {messages : List Message} {frames : List Frame}
    (h : Carried role messages frames) : ∀ f ∈ frames, f.Passes (16 <<< 20) := by
  induction h with
  | nil => exact fun _ hf ↦ nomatch hf
  | cons h _ ih =>
      intro f hf
      rcases List.mem_cons.1 hf with rfl | hf
      · exact h.passes
      · exact ih f hf

/-- **A connection that waits for messages** from a side with the other role. -/
structure Waits (peer : Role) (messages : List Message) (w : WebSocket) : Prop where
  role : w.context.role ≠ peer
  state : w.context.state = .active
  config : w.context.config = .default
  incomplete : w.context.incomplete = none
  steady : Steady w
  coming : ∃ tail frames, Carried peer messages frames ∧ Chunks tail w.socket.answers.reads ∧
    w.context.frame.Coming tail frames

/-- What a call of `read` returns: the next message, or nothing yet. -/
inductive Gives (peer : Role) (messages : List Message) (w : WebSocket) (r : Except Error Message)
    (w' : WebSocket) : Prop
  | message {m : Message} {rest : List Message} (hm : messages = m :: rest) (hr : r = .ok m)
      (hw : Waits peer rest w')
      (hreads : w'.socket.answers.reads.length ≤ w.socket.answers.reads.length)
  | block (hr : r = .error (.io .wouldBlock)) (hw : Waits peer messages w')
      (hreads : w'.socket.answers.reads.length ≤ w.socket.answers.reads.length)
      (hlt : messages ≠ [] → w'.socket.answers.reads.length < w.socket.answers.reads.length)

/-- Flushing does not change what a connection waits for. -/
theorem Waits.flushed {peer : Role} {messages : List Message} (h : Waits peer messages w)
    (hw : Flushed w w') (hsteady : Steady w') : Waits peer messages w' where
  role := by
    rw [role_of_input hw.input]
    exact h.role
  state := by
    rw [hw.active (by rw [h.state]; rfl)]
    exact h.state
  config := (congrArg Input.config hw.input).trans h.config
  incomplete := (congrArg Input.incomplete hw.input).trans h.incomplete
  steady := hsteady
  coming := by
    obtain ⟨tail, frames, hcarried, hchunks, hcoming⟩ := h.coming
    have hreads : w'.socket.answers.reads = w.socket.answers.reads := congrArg Input.reads hw.input
    rw [← hreads] at hchunks
    exact ⟨tail, frames, hcarried, hchunks,
      hcoming.sameInput ⟨congrArg Input.inBuffer hw.input, congrArg Input.header hw.input⟩⟩

/-- A frame that is not a Close frame leaves the state as it is. -/
theorem processFrame_state (hf : f.isClose = false) :
    (processFrame u f).Ensures w fun _ w' ↦ w'.context.state = w.context.state := by
  refine EStateM.Ensures.get_bind (EStateM.Ensures.ite (fun _ ↦ rfl) fun _ ↦
    EStateM.Ensures.ite (fun _ ↦ rfl) fun _ ↦ ?_)
  show EStateM.Ensures (EStateM.ofExcept (unmask _ _ f) >>= _) w _
  rcases unmask_spec w.context.role w.context.config.acceptUnmaskedFrames f with
    ⟨hok, -⟩ | ⟨⟨e, herror⟩, -⟩
  · rw [hok]
    refine EStateM.Ensures.ofExcept_bind rfl ?_
    simp only [(header_applyMask f).1]
    cases hopcode : f.header.opcode with
    | control ctl =>
        refine EStateM.Ensures.ite (fun _ ↦ rfl) fun _ ↦
          EStateM.Ensures.ite (fun _ ↦ rfl) fun _ ↦ ?_
        cases ctl with
        | close =>
            rw [Frame.isClose, hopcode] at hf
            cases hf
        | reserved i => exact rfl
        | ping =>
            have hpong : (setAdditional (.pong f.applyMask.payload) true).Ensures w
                fun _ w' ↦ w'.context.state = w.context.state := by
              rw [EStateM.Ensures, attempt_setAdditional]
              split
              · rfl
              · rfl
            exact EStateM.Ensures.get_bind (EStateM.Ensures.ite
              (fun _ ↦ hpong.bind (fun _ _ h ↦ h) fun _ _ h ↦ h) fun _ ↦ rfl)
        | pong => exact rfl
    | data d => exact EStateM.Ensures.set_bind (EStateM.Ensures.ofExcept rfl)
  · rw [herror]
    exact rfl

/-- **A frame that carries a message is accepted** by the other side. -/
theorem processFrame_carries (hu : u.Lawful) {peer : Role} {m : Message} (hf : Carries peer m f)
    (hrole : w.context.role ≠ peer) (hstate : w.context.state = .active)
    (hconfig : w.context.config = .default) (hincomplete : w.context.incomplete = none) :
    ∃ w', (processFrame u f.onWire).attempt w = (.ok (some m), w') ∧ Answered w w' ∧
      w'.context.role = w.context.role ∧ w'.context.state = .active ∧
        w'.context.config = .default ∧ w'.context.incomplete = none := by
  obtain ⟨hadmissible, hbrings⟩ := hf.brings hrole
  have hkeeps : Keeps w.context.incomplete none := by
    rw [hincomplete]
    exact .none
  have hspec := processFrame_spec hu hstate hkeeps f.onWire
  rw [hconfig] at hspec
  rcases hspec with ⟨message, pending', w', hok, -, hbrings', hkeeps', hrole', hconfig'⟩ | ⟨-, hno⟩
  · obtain ⟨rfl, rfl⟩ := hbrings.unique hbrings'
    have hdeals := deals_processFrame (u := u) f.onWire w
    have hsame := processFrame_state (u := u) (w := w) hf.isClose
    rw [EStateM.Ensures, hok] at hdeals hsame
    refine ⟨w', hok, hdeals.1, hrole', hsame.trans hstate, hconfig', ?_⟩
    exact Option.isNone_iff_eq_none.1 hkeeps'.isNone
  · exact absurd hbrings (hno _ _ hadmissible)

/-- **A turn of the loop of `read` returns the next message**, or nothing yet. -/
theorem gives_turn (hu : u.Lawful) {peer : Role} {messages : List Message}
    (h : Waits peer messages w) (next : Io Message) :
    (readMessageFrame u >>= fun message ↦ match message with
      | some message => Pure.pure message
      | none => next).Ensures w fun r w' ↦ Gives peer messages w r w' := by
  obtain ⟨tail, frames, hcarried, hchunks, hcoming⟩ := h.coming
  have hframeRead : w.frameRead = w.context.frame.readLoop (16 <<< 20) w.socket.answers.reads := by
    rw [frameRead, h.config]
    rfl
  have hhands := FrameCodec.hands_readLoop (by decide) hcarried.passes hchunks hcoming
  rw [← hframeRead] at hhands
  obtain ⟨tail', hchunks', ⟨hblock, hcoming', hlt⟩ | ⟨f, rest, rfl, hframe, hcoming'⟩⟩ :=
    hhands.chunks
  · have hattempt : (readMessageFrame u).attempt w = (.error (.io .wouldBlock), w.received) := by
      obtain ⟨e, he, hattempt⟩ := readMessageFrame_error (u := u) hblock
      rw [checkConnectionReset_error, if_neg fun h ↦ nomatch h.2] at he
      cases he
      exact hattempt
    rw [EStateM.Ensures, EStateM.attempt_bind_error hattempt]
    refine .block rfl ⟨h.role, h.state, h.config, h.incomplete, ⟨h.steady.writes, h.steady.flushes⟩,
      tail', frames, hcarried, hchunks', hcoming'⟩ hhands.length fun hne ↦ hlt ?_
    rintro rfl
    cases hcarried
    exact hne rfl
  · cases hcarried with
    | @cons m _ messages _ hf hrest =>
        obtain ⟨w', hok, hanswered, hrole, hstate, hconfig, hincomplete⟩ :=
          processFrame_carries (w := w.received) hu hf h.role h.state h.config h.incomplete
        have hmessage : (readMessageFrame u).attempt w = (.ok (some m), w') := by
          rw [readMessageFrame_frame hframe, hok]
        have hanswers : w'.socket.answers = w.received.socket.answers := by
          rw [hanswered.codec.1]
        have hwaits : Waits peer messages w' := by
          refine ⟨?_, hstate, hconfig, hincomplete, ⟨?_, ?_⟩, tail', rest, hrest, ?_, ?_⟩
          · rw [hrole]
            exact h.role
          · rw [hanswers]
            exact h.steady.writes
          · rw [hanswers]
            exact h.steady.flushes
          · rw [hanswers]
            exact hchunks'
          · rw [hanswered.codec.2.1]
            exact hcoming'
        have hle : w'.socket.answers.reads.length ≤ w.socket.answers.reads.length := by
          rw [hanswers]
          exact hhands.length
        rw [EStateM.Ensures, EStateM.attempt_bind_ok hmessage]
        exact .message rfl rfl hwaits hle

/-- **A call of `read` returns the next message**, or nothing yet. -/
theorem gives_read (hu : u.Lawful) {peer : Role} {messages : List Message}
    (h : Waits peer messages w) : (read u).Ensures w fun r w' ↦ Gives peer messages w r w' := by
  have hstate : w.context.state ≠ .terminated := by
    rw [h.state]
    exact nofun
  obtain ⟨w₁, hbefore, hflushed, hsteady⟩ := beforeRead_steady h.steady h.state
  have hreads : w₁.socket.answers.reads = w.socket.answers.reads :=
    congrArg Input.reads hflushed.input
  rw [EStateM.Ensures, attempt_read hstate, EStateM.attempt_bind_ok hbefore]
  show EStateM.Ensures _ w₁ fun r w' ↦ Gives peer messages w r w'
  refine (gives_turn hu (h.flushed hflushed hsteady) _).mono fun r w' hgives ↦ ?_
  cases hgives with
  | message hm hr hw hle =>
      rw [hreads] at hle
      exact .message hm hr hw hle
  | block hr hw hle hlt =>
      rw [hreads] at hle hlt
      exact .block hr hw hle hlt

/-- The messages among what is returned. -/
def returned (outs : List (Except Error Message)) : List Message := outs.filterMap Except.toOption

/-- What is returned is a message, or says that the stream blocks. -/
def OnlyBlocks (outs : List (Except Error Message)) : Prop :=
  ∀ r ∈ outs, (∃ m, r = .ok m) ∨ r = .error (.io .wouldBlock)

/-- **Successive calls of `read` return the messages in their order**, and all of them if there
are calls enough. -/
theorem reads_waits (hu : u.Lawful) {peer : Role} (n : Nat) {messages : List Message}
    (h : Waits peer messages w) :
    OnlyBlocks (reads u n w).1 ∧ returned (reads u n w).1 <+: messages ∧
      (w.socket.answers.reads.length + messages.length ≤ n →
        returned (reads u n w).1 = messages) := by
  induction n generalizing w messages with
  | zero =>
      refine ⟨fun _ hr ↦ (nomatch hr), List.nil_prefix, fun hle ↦ ?_⟩
      have hnil : messages.length = 0 := by omega
      rw [List.eq_nil_of_length_eq_zero hnil]
      rfl
  | succ n ih =>
      have hgives := gives_read hu h
      rw [EStateM.Ensures] at hgives
      have hreads : (reads u (n + 1) w).1 =
          ((read u).attempt w).1 :: (reads u n ((read u).attempt w).2).1 := rfl
      rw [hreads]
      generalize (read u).attempt w = out at hgives
      obtain ⟨r, w'⟩ := out
      cases hgives with
      | @message m rest hm hr hw hle =>
          cases hm
          cases hr
          obtain ⟨honly, hprefix, hall⟩ := ih hw
          have hcons : returned (.ok m :: (reads u n w').1) = m :: returned (reads u n w').1 := rfl
          refine ⟨?_, ?_, fun hn ↦ ?_⟩
          · intro r hr
            rcases List.mem_cons.1 hr with rfl | hr
            · exact .inl ⟨m, rfl⟩
            · exact honly r hr
          · rw [hcons]
            exact (List.prefix_cons_inj m).2 hprefix
          · rw [List.length_cons] at hn
            rw [hcons, hall (by omega)]
      | block hr hw hle hlt =>
          cases hr
          obtain ⟨honly, hprefix, hall⟩ := ih hw
          have hskip : returned (.error (.io .wouldBlock) :: (reads u n w').1) =
              returned (reads u n w').1 := rfl
          refine ⟨?_, ?_, fun hn ↦ ?_⟩
          · intro r hr
            rcases List.mem_cons.1 hr with rfl | hr
            · exact .inr rfl
            · exact honly r hr
          · rw [hskip]
            exact hprefix
          · rw [hskip]
            by_cases hnil : messages = []
            · rw [hnil] at hprefix ⊢
              exact List.prefix_nil.1 hprefix
            · have hless := hlt hnil
              exact hall (by omega)

/-! ## Writing -/

/-- Two lists are interleaved. -/
inductive Interleaves {α : Type} : List α → List α → List α → Prop
  | nil : Interleaves [] [] []
  | left {xs ys zs : List α} {a : α} (h : Interleaves xs ys zs) :
      Interleaves (xs ++ [a]) ys (zs ++ [a])
  | right {xs ys zs : List α} {a : α} (h : Interleaves xs ys zs) :
      Interleaves xs (ys ++ [a]) (zs ++ [a])

theorem Interleaves.eq_left {α : Type} {xs ys zs : List α} (h : Interleaves xs ys zs)
    (hys : ys = []) : zs = xs := by
  induction h with
  | nil => rfl
  | left _ ih => rw [ih hys]
  | right => exact absurd hys (List.append_ne_nil_of_right_ne_nil _ (List.cons_ne_nil _ _))

/-- **Messages are written**, and the connection is flushed meanwhile.  A message that finds the
buffer of output full is refused; a pong is not, but it is late. -/
inductive Writes (u : Utf8Crate) (w₀ : WebSocket) :
    List Message → List Message → WebSocket → Prop
  | start : Writes u w₀ [] [] w₀
  | write {sent late : List Message} {w : WebSocket} {m : Message} {f : Frame} {answers : Answers}
      (h : Writes u w₀ sent late w) (hm : Sendable m f) (hfits : (w.answered answers).Fits f) :
      Writes u w₀ (sent ++ [m]) late (w.perform u (.write m, answers)).2
  | refused {sent late : List Message} {w : WebSocket} {m : Message} {f : Frame}
      {answers : Answers} (h : Writes u w₀ sent late w) (hm : Sendable m f)
      (hpong : f.isPong = false) (hfull : ¬ (w.answered answers).Fits f) :
      Writes u w₀ sent late (w.perform u (.write m, answers)).2
  | late {sent late : List Message} {w : WebSocket} {m : Message} {f : Frame} {answers : Answers}
      (h : Writes u w₀ sent late w) (hm : Sendable m f) (hpong : f.isPong = true)
      (hfull : ¬ (w.answered answers).Fits f) :
      Writes u w₀ sent (late ++ [m]) (w.perform u (.write m, answers)).2
  | flush {sent late : List Message} {w : WebSocket} {answers : Answers}
      (h : Writes u w₀ sent late w) : Writes u w₀ sent late (w.perform u (.flush, answers)).2

/-- What waits in `additionalSend`: a pong, which a client may have masked. -/
inductive Holds (role : Role) : Option Message → Option Frame → Prop
  | nothing : Holds role none none
  | pong {m : Message} {f g : Frame} (hm : Sendable m f) (hf : f.isPong = true)
      (hg : Stays role (some f) (some g)) : Holds role (some m) (some g)

/-- **What has been put out**: the messages that had room, in their order, and late pongs between
them; one of these may still wait. -/
structure Outgoing (w₀ : WebSocket) (sent late : List Message) (w : WebSocket) : Prop where
  role : w.context.role = w₀.context.role
  state : w.context.state = .active
  output : ∃ messages frames passed gone held,
    w.output = w₀.output ++ frames.flatMap Frame.format ∧
      Carried w₀.context.role messages frames ∧ Interleaves sent passed messages ∧
      passed.Sublist gone ∧ late = gone ++ held.toList ∧
      Holds w₀.context.role held w.context.additionalSend

theorem Carried.concat {role : Role} {messages : List Message} {frames : List Frame} {m : Message}
    (h : Carried role messages frames) (hm : Carries role m f) :
    Carried role (messages ++ [m]) (frames ++ [f]) := by
  induction h with
  | nil => exact .cons hm .nil
  | cons h _ ih => exact .cons h ih

theorem flatMap_concat (frames : List Frame) (f : Frame) :
    (frames ++ [f]).flatMap Frame.format = frames.flatMap Frame.format ++ f.format := by
  rw [List.flatMap_append, List.flatMap_singleton]

section Outgoing

variable {sent late : List Message} {m : Message}

/-- Nothing has been put out at first. -/
theorem outgoing_start (hstate : w₀.context.state = .active)
    (hnone : w₀.context.additionalSend = none) :
    Outgoing w₀ [] [] w₀ := by
  refine ⟨rfl, hstate, [], [], [], [], none, ?_, .nil, .nil, .slnil, rfl, ?_⟩
  · exact (List.append_nil _).symm
  · rw [hnone]
    exact .nothing

/-- Flushing lets the pong that waits go out, or lets it wait. -/
theorem Outgoing.flushed (h : Outgoing w₀ sent late w) (hw : Flushed w w') :
    Outgoing w₀ sent late w' := by
  have hread : w.context.state.canRead = true := by
    rw [h.state]
    rfl
  have hrole := role_of_input hw.input
  obtain ⟨messages, frames, passed, gone, held, houtput, hcarried, hinterleaves, hsublist, hlate,
    hholds⟩ := h.output
  refine ⟨hrole.trans h.role, (hw.active hread).trans h.state, ?_⟩
  cases hw.moved with
  | stays hqueued hsame hstays =>
      refine ⟨messages, frames, passed, gone, held, hsame.trans houtput, hcarried, hinterleaves,
        hsublist, hlate, ?_⟩
      rw [h.role] at hstays
      generalize w.context.additionalSend = a at hholds hstays
      generalize w'.context.additionalSend = b at hstays
      cases hholds with
      | nothing =>
          cases hstays
          exact .nothing
      | pong hm hf hg =>
          cases hstays with
          | same => exact .pong hm hf hg
          | masked hgoes => exact .pong hm hf (hg.trans (.masked hgoes))
  | @goes g g' hsome hgoes hqueued hmore hnone =>
      rw [hsome] at hholds
      rw [h.role] at hgoes
      cases hholds with
      | @pong m f _ hm hf hg =>
          have hcarries : Carries w₀.context.role m g' := by
            refine ⟨f, hm, ?_⟩
            cases hg with
            | same => exact hgoes
            | masked hfirst => exact hfirst.trans hgoes
          refine ⟨messages ++ [m], frames ++ [g'], passed ++ [m], gone ++ [m], none, ?_,
            hcarried.concat hcarries, hinterleaves.right, hsublist.append (.refl _), ?_, ?_⟩
          · rw [hmore, houtput, flatMap_concat, List.append_assoc]
          · rw [hlate]
            exact (List.append_nil _).symm
          · rw [hnone]
            exact .nothing

/-- A message that has room is put out. -/
theorem Outgoing.buffered (h : Outgoing w₀ sent late w) (hm : Sendable m f) :
    Outgoing w₀ (sent ++ [m]) late (w.buffered f) := by
  obtain ⟨messages, frames, passed, gone, held, houtput, hcarried, hinterleaves, hsublist, hlate,
    hholds⟩ := h.output
  have hgoes := goes_masked w f
  rw [h.role] at hgoes
  refine ⟨h.role, h.state, messages ++ [m], frames ++ [w.masked f], passed, gone, held, ?_,
    hcarried.concat ⟨f, hm, hgoes⟩, hinterleaves.left, hsublist, hlate, hholds⟩
  rw [output_buffered, houtput, flatMap_concat, List.append_assoc]

/-- The pong that waits is dropped. -/
theorem Outgoing.dropped (h : Outgoing w₀ sent late w) (automatic : Bool) :
    Outgoing w₀ sent late (w.setAdditionalSend none automatic) := by
  obtain ⟨messages, frames, passed, gone, held, houtput, hcarried, hinterleaves, hsublist, hlate,
    -⟩ := h.output
  refine ⟨h.role, h.state, messages, frames, passed, late, none, houtput, hcarried, hinterleaves,
    ?_, (List.append_nil _).symm, .nothing⟩
  rw [hlate]
  exact hsublist.trans (List.sublist_append_left _ _)

/-- A late pong waits, and replaces the one before it. -/
theorem Outgoing.held (h : Outgoing w₀ sent late w) (hm : Sendable m f) (hf : f.isPong = true)
    (automatic : Bool) :
    Outgoing w₀ sent (late ++ [m]) (w.setAdditionalSend (some f) automatic) := by
  obtain ⟨messages, frames, passed, gone, held, houtput, hcarried, hinterleaves, hsublist, hlate,
    -⟩ := h.output
  refine ⟨h.role, h.state, messages, frames, passed, late, some m, houtput, hcarried, hinterleaves,
    ?_, rfl, .pong hm hf .same⟩
  rw [hlate]
  exact hsublist.trans (List.sublist_append_left _ _)

/-- What waits is a pong, which another one may replace. -/
theorem Outgoing.replaceable (h : Outgoing w₀ sent late w) :
    w.context.additionalSend.all (·.isPong) = true := by
  obtain ⟨-, -, -, -, held, -, -, -, -, -, hholds⟩ := h.output
  generalize w.context.additionalSend = a at hholds
  cases hholds with
  | nothing => rfl
  | pong hm hf hg =>
      cases hg with
      | same => exact hf
      | masked hgoes => exact hgoes.isPong.trans hf

/-- A frame that is written is refused, or it is put out. -/
theorem ensures_writeFrame (f : Frame) (w : WebSocket) :
    (writeFrame f).Ensures w fun r w' ↦
      (¬ w.Fits f ∧ (∃ message, r = .error (.writeBufferFull message)) ∧ w' = w.drawMask) ∨
        (w.Fits f ∧ Flushed (w.buffered f) w') := by
  have hrest : Flushes (_write none >>= fun flushNow ↦
      if flushNow then flush else (Pure.pure () : Io Unit)) := by
    refine flushes_write.bind fun flushNow ↦ ?_
    cases flushNow with
    | true => exact flushes_flush
    | false => exact Flushes.pure ()
  have hattempt : writeFrame f = bufferFrame f >>= fun _ ↦ _write none >>= fun flushNow ↦
      if flushNow then flush else (Pure.pure () : Io Unit) := by
    show (_write (some f) >>= _) = _
    rw [write_some, bind_assoc]
  rw [hattempt]
  refine (ensures_bufferFrame f w).bind ?_ ?_
  · rintro _ w₁ (⟨-, herror, -⟩ | ⟨hfits, -, hw₁⟩)
    · cases herror
    · refine (hrest w₁).mono fun r w' ⟨hw', _⟩ ↦ .inr ⟨hfits, ?_⟩
      rcases hw₁ with rfl | rfl
      · exact hw'
      · exact (Flushed.drained _).trans hw'
  · rintro e w₁ (⟨hfull, herror, rfl⟩ | ⟨hfits, -, hw₁⟩)
    · cases herror
      exact .inl ⟨hfull, ⟨_, rfl⟩, rfl⟩
    · refine .inr ⟨hfits, ?_⟩
      rcases hw₁ with rfl | rfl
      · exact .refl _
      · exact .drained _

/-- What waits in `additionalSend` and has room is put out by `_write`. -/
theorem ensures_write_fits (ha : w.context.additionalSend = some f) (hfits : w.Fits f) :
    (_write none).Ensures w fun _ w' ↦ Flushed (w.taken.buffered f) w' := by
  have hadditional : writeAdditional.Ensures w fun _ w' ↦ Flushed (w.taken.buffered f) w' := by
    rw [EStateM.Ensures, writeAdditional_fits ha hfits]
    have hbuffer := ensures_bufferFrame f w.taken
    rw [EStateM.Ensures] at hbuffer
    rcases hbuffer with ⟨hfull, -⟩ | ⟨-, -, hw' | hw'⟩
    · exact absurd hfits hfull
    · rw [hw']
      exact .recordReply _
    · rw [hw']
      exact (Flushed.drained _).trans (.recordReply _)
  rw [write_none]
  refine hadditional.bind (fun b w₁ hw₁ ↦ ?_) fun _ _ hw₁ ↦ hw₁
  exact (flushes_endIfClosing b w₁).mono fun _ _ hw' ↦ hw₁.trans hw'.1

/-- A pong that is written waits in `additionalSend`, and `_write` takes it from there. -/
theorem ensures_writePong {b : Bytes} {P : WebSocket → Prop}
    (hpong : w.context.additionalSend.all (·.isPong) = true)
    (h : (_write none).Ensures (w.setAdditionalSend (some (.pong b)) false) fun _ w' ↦ P w') :
    (setAdditional (.pong b) false >>= fun _ ↦ _write none >>= fun _ ↦
      (Pure.pure () : Io Unit)).Ensures w fun _ w' ↦ P w' := by
  have hset := attempt_setAdditional (.pong b) false w
  rw [if_pos hpong] at hset
  rw [EStateM.Ensures, EStateM.attempt_bind_ok hset]
  show EStateM.Ensures (_write none >>= fun _ ↦ (Pure.pure () : Io Unit)) _ fun _ w' ↦ P w'
  exact h.bind (fun _ _ hw ↦ hw) fun _ _ hw ↦ hw

/-- **A message that has room is put out** by `write`. -/
theorem Outgoing.write (h : Outgoing w₀ sent late w) (hm : Sendable m f) (hfits : w.Fits f) :
    (WebSocket.write m).Ensures w fun _ w' ↦ Outgoing w₀ (sent ++ [m]) late w' := by
  have hframe : (writeFrame f).Ensures w fun _ w' ↦ Outgoing w₀ (sent ++ [m]) late w' := by
    refine (ensures_writeFrame f w).mono ?_
    rintro _ w' (⟨hfull, -⟩ | ⟨-, hw'⟩)
    · exact absurd hfits hfull
    · exact (h.buffered hm).flushed hw'
  rw [EStateM.Ensures, attempt_write_active h.state]
  cases hm with
  | text => exact hframe
  | binary => exact hframe
  | ping => exact hframe
  | @pong b hb =>
      have hwrite : (_write none).Ensures (w.setAdditionalSend (some (.pong b)) false)
          fun _ w' ↦ Outgoing w₀ (sent ++ [.pong b]) late w' :=
        (ensures_write_fits (w := w.setAdditionalSend (some (.pong b)) false) rfl hfits).mono
          fun _ w' hw' ↦ ((h.dropped false).buffered (.pong hb)).flushed hw'
      exact ensures_writePong h.replaceable hwrite

/-- A message that is refused changes nothing. -/
theorem Outgoing.refused (h : Outgoing w₀ sent late w) (hm : Sendable m f)
    (hpong : f.isPong = false) (hfull : ¬ w.Fits f) :
    (WebSocket.write m).Ensures w fun _ w' ↦ Outgoing w₀ sent late w' := by
  have hframe : (writeFrame f).Ensures w fun _ w' ↦ Outgoing w₀ sent late w' := by
    refine (ensures_writeFrame f w).mono ?_
    rintro _ w' (⟨-, -, rfl⟩ | ⟨hfits, -⟩)
    · exact h.flushed (.drawMask w)
    · exact absurd hfits hfull
  rw [EStateM.Ensures, attempt_write_active h.state]
  cases hm with
  | text => exact hframe
  | binary => exact hframe
  | ping => exact hframe
  | pong => cases hpong

/-- A pong that has no room is late. -/
theorem Outgoing.waits (h : Outgoing w₀ sent late w) (hm : Sendable m f)
    (hpong : f.isPong = true) :
    (WebSocket.write m).Ensures w fun _ w' ↦ Outgoing w₀ sent (late ++ [m]) w' := by
  rw [EStateM.Ensures, attempt_write_active h.state]
  cases hm with
  | text => cases hpong
  | binary => cases hpong
  | ping => cases hpong
  | @pong b hb =>
      have hheld := h.held (.pong hb) rfl false
      exact ensures_writePong h.replaceable
        ((flushes_write _).mono fun _ _ hw' ↦ hheld.flushed hw'.1)

/-- **A run of writing calls puts the messages out.** -/
theorem Writes.outgoing (h : Writes u w₀ sent late w) (hstate : w₀.context.state = .active)
    (hnone : w₀.context.additionalSend = none) : Outgoing w₀ sent late w := by
  have hanswered : ∀ {sent late w} (answers : Answers), Outgoing w₀ sent late w →
      Outgoing w₀ sent late (w.answered answers) := fun _ h ↦ ⟨h.role, h.state, h.output⟩
  have hcall : ∀ {sent late w} {m : Io Unit},
      (m.Ensures w fun _ w' ↦ Outgoing w₀ sent late w') →
      (m >>= fun _ ↦ (Pure.pure none : Io (Option Message))).Ensures w
        fun _ w' ↦ Outgoing w₀ sent late w' := fun h ↦ ensures_unit h
  induction h with
  | start => exact outgoing_start hstate hnone
  | write _ hm hfits ih => exact hcall ((hanswered _ ih).write hm hfits)
  | refused _ hm hpong hfull ih => exact hcall ((hanswered _ ih).refused hm hpong hfull)
  | late _ hm hpong _ ih => exact hcall ((hanswered _ ih).waits hm hpong)
  | flush _ ih => exact hcall ((flushes_flush _).mono fun _ _ hw ↦ (hanswered _ ih).flushed hw.1)

end Outgoing

/-! ## The round trip -/

/-- **A connection that is given these bytes**: active, of the other role, with the default
configuration and nothing read so far, on a stream that does not fail. -/
structure Given (peer : Role) (bytes : Bytes) (w : WebSocket) : Prop where
  role : w.context.role ≠ peer
  state : w.context.state = .active
  config : w.context.config = .default
  inBuffer : w.context.frame.inBuffer = []
  header : w.context.frame.header = none
  incomplete : w.context.incomplete = none
  steady : Steady w
  chunks : Chunks bytes w.socket.answers.reads

/-- **What is written and flushed is read.**  An active connection that has written all it had
writes messages.  When all is written again, the other side gets the messages that had room
in the buffer of output, in their order, and between them some of the late pongs, in theirs;
and nothing else, however the bytes arrive. -/
theorem written_is_read (hu : u.Lawful) {sent late : List Message}
    (hstate : w₀.context.state = .active) (hnew : w₀.AllWritten) (h : Writes u w₀ sent late w)
    (hflushed : w.AllWritten) :
    ∃ bytes messages passed, w.socket.written = w₀.socket.written ++ bytes ∧
      passed.Sublist late ∧ Interleaves sent passed messages ∧ (late = [] → messages = sent) ∧
      ∀ r : WebSocket, Given w₀.context.role bytes r → ∀ n,
        OnlyBlocks (reads u n r).1 ∧ returned (reads u n r).1 <+: messages ∧
          (r.socket.answers.reads.length + messages.length ≤ n →
            returned (reads u n r).1 = messages) := by
  obtain ⟨messages, frames, passed, gone, held, houtput, hcarried, hinterleaves, hsublist, hlate,
    hholds⟩ := (h.outgoing hstate hnew.2).output
  rw [output, output, hflushed.1, hnew.1, List.append_nil, List.append_nil] at houtput
  have hover : late = gone := by
    rw [hflushed.2] at hholds
    cases hholds
    exact hlate.trans (List.append_nil gone)
  refine ⟨frames.flatMap Frame.format, messages, passed, houtput, hover ▸ hsublist, hinterleaves,
    fun hnil ↦ ?_, fun r hr n ↦ ?_⟩
  · refine hinterleaves.eq_left ?_
    rw [← hover, hnil] at hsublist
    exact List.sublist_nil.1 hsublist
  · refine reads_waits hu n ⟨hr.role, hr.state, hr.config, hr.incomplete, hr.steady, _, frames,
      hcarried, hr.chunks, .between hr.header ?_⟩
    rw [hr.inBuffer]
    rfl

/-- A binary message of one byte, read in two chunks. -/
theorem written_is_read_binary :
    returned (reads .reference 4
      (fresh .client ⟨[.ok [0x82], .err .wouldBlock, .ok [0x01, 7]], [], [], []⟩)).1 =
        [.binary [7]] := by
  have hrun : Writes .reference (fresh .server ⟨[], [], [], []⟩) [.binary [7]] []
      ((((fresh .server ⟨[], [], [], []⟩).perform .reference
        (.write (.binary [7]), ⟨[], [], [], []⟩)).2.perform .reference
          (.flush, ⟨[], [.ok 1, .ok 2], [], []⟩)).2) :=
    .flush (.write (f := .message [7] .binary true) .start (.binary (by decide)) (by decide))
  obtain ⟨bytes, messages, passed, hbytes, -, -, hsent, hreads⟩ :=
    written_is_read Utf8Crate.reference_lawful rfl ⟨rfl, rfl⟩ hrun ⟨rfl, rfl⟩
  have hwire : [0x82, 0x01, 7] = bytes := hbytes
  subst hwire
  have hlast : Chunks ([0x01, 7] ++ []) [.ok [0x01, 7]] := .chunk (List.cons_ne_nil _ _) .nil
  have hchunks : Chunks ([0x82] ++ [0x01, 7]) [.ok [0x82], .err .wouldBlock, .ok [0x01, 7]] :=
    .chunk (List.cons_ne_nil _ _) hlast.block
  have hgiven : Given .server [0x82, 0x01, 7]
      (fresh .client ⟨[.ok [0x82], .err .wouldBlock, .ok [0x01, 7]], [], [], []⟩) :=
    ⟨fun h ↦ (nomatch h), rfl, rfl, rfl, rfl, rfl, ⟨fun _ h ↦ (nomatch h), fun _ h ↦ (nomatch h)⟩,
      hchunks⟩
  rw [hsent rfl] at hreads
  exact (hreads _ hgiven 4).2.2 (by decide)

/-- A server with room for ten bytes in its buffer of output. -/
def cramped : WebSocket where
  socket := .new ⟨[], [], [], []⟩
  context := ⟨.server,
    { FrameCodec.new with maxOutBufferLen := 10, outBufferWriteLen := 5 }, .active,
    none, none, { WebSocketConfig.default with writeBufferSize := 5, maxWriteBufferSize := 10 }⟩
  automatic := false
  replyEnd := 0

/-- **A pong that finds the buffer of output full is overtaken**: it is written before the last
message, without an error, and it is read after it. -/
theorem pong_overtaken :
    let written := cramped.perform .reference (.write (.binary [1, 2, 3]), ⟨[], [], [], []⟩)
    let late := written.2.perform .reference (.write (.pong [1, 2, 3, 4, 5, 6]), ⟨[], [], [], []⟩)
    let last := late.2.perform .reference (.write (.binary []), ⟨[], [.ok 7, .ok 8], [], []⟩)
    fromPartiallyRead (.new ⟨[], [], [], []⟩) [] .server (some cramped.context.config) =
        .ok cramped ∧
      written.1 = .ok none ∧ late.1 = .ok none ∧ last.1 = .ok none ∧ last.2.AllWritten ∧
      (reads .reference 3 (fresh .client ⟨[.ok last.2.socket.written], [], [], []⟩)).1 =
        [.ok (.binary [1, 2, 3]), .ok (.binary []), .ok (.pong [1, 2, 3, 4, 5, 6])] :=
  ⟨rfl, rfl, rfl, rfl, ⟨rfl, rfl⟩, rfl⟩

end WebSocket

end Ws

end MessageIo
