import MessageIo.Lib.Transition
import MessageIo.Protocol.Reading

/-!
# Automatic replies

A reply to a ping or to a Close frame is in `additionalSend`, then in the buffer of output, and then
it is written.  `read` looks at `additionalSend` only.

* `offersFirst_iff` says when a call of `read` offers the replies that it owes to the stream before
  it does anything else.
* `cut_call` says when a server says that the connection is closed and has not written all that it
  was to write.
* `replies_written_iff` puts them together for every state of every run.
-/

namespace MessageIo

namespace Ws

open Transition

/-! ## How a stream takes bytes -/

/-- **The error that stops a stream**, if it does not take so many bytes. -/
def stopsWith : List WriteCall → Nat → Option ErrorKind
  | _, 0 => none
  | [], _ + 1 => some .wouldBlock
  | .err kind :: _, _ + 1 => some kind
  | .ok 0 :: _, _ + 1 => some .connectionReset
  | .ok (k + 1) :: writes, n + 1 => stopsWith writes (n - k)

namespace FrameCodec

theorem stopsWith_zero (writes : List WriteCall) : stopsWith writes 0 = none := by
  cases writes with
  | nil => rfl
  | cons call writes => rw [stopsWith]

/-- The buffer is drained exactly if the stream takes so many bytes. -/
theorem drain_result (out : Bytes) (writes : List WriteCall) :
    (stopsWith writes out.length = none ∧ (drain out writes).result = .ok () ∧
        (drain out writes).rest = []) ∨
      ∃ kind, stopsWith writes out.length = some kind ∧
        (drain out writes).result = .error (.io kind) ∧ (drain out writes).rest ≠ [] := by
  induction writes generalizing out with
  | nil =>
      cases out with
      | nil => exact .inl ⟨rfl, rfl, rfl⟩
      | cons b out => exact .inr ⟨_, rfl, rfl, List.cons_ne_nil b out⟩
  | cons call writes ih =>
      cases hout : out with
      | nil =>
          rw [drain_nil]
          exact .inl ⟨stopsWith_zero _, rfl, rfl⟩
      | cons b rest =>
          have hne : b :: rest ≠ [] := List.cons_ne_nil b rest
          rcases call with (_ | n) | kind
          · rw [drain_zero hne]
            exact .inr ⟨_, rfl, rfl, hne⟩
          · rw [drain_ok hne writes (Nat.succ_pos n), List.length_cons, stopsWith,
              ← List.length_drop]
            exact ih _
          · rw [drain_err hne]
            exact .inr ⟨_, rfl, rfl, hne⟩

/-- What a stream is offered first is the whole buffer. -/
theorem drain_offers {out : Bytes} (h : out ≠ []) (writes : List WriteCall) :
    ∃ offers, (drain out writes).offers = out.length :: offers := by
  rcases writes with _ | ⟨(_ | n) | kind, writes⟩
  · exact ⟨_, by rw [drain_end h]⟩
  · exact ⟨_, by rw [drain_zero h]⟩
  · exact ⟨_, by rw [drain_ok h writes (Nat.succ_pos n)]⟩
  · exact ⟨_, by rw [drain_err h]⟩

/-! ## Input that ends -/

/-- **The input ends, or is reset, before it makes a whole frame.** -/
inductive EndsInside (maxSize : Nat) : FrameCodec → List ReadCall → Prop
  | ends {c c' : FrameCodec} {call : ReadCall} {reads : List ReadCall}
      (h : c.nextFrame maxSize = (.ok none, c'))
      (hcall : call = .ok [] ∨ call = .err .connectionReset) : EndsInside maxSize c (call :: reads)
  | more {c c' : FrameCodec} {data : Bytes} {reads : List ReadCall}
      (h : c.nextFrame maxSize = (.ok none, c')) (hdata : data ≠ [])
      (hrest : EndsInside maxSize (c'.fed data) reads) : EndsInside maxSize c (.ok data :: reads)

/-- What `readLoop` then ends with. -/
theorem endsInside_iff (maxSize : Nat) (c : FrameCodec) (reads : List ReadCall) :
    EndsInside maxSize c reads ↔ (c.readLoop maxSize reads).result = .ok none ∨
      (c.readLoop maxSize reads).result = .error (.io .connectionReset) := by
  refine readLoop_cases (P := fun c reads out ↦ EndsInside maxSize c reads ↔
    out.result = .ok none ∨ out.result = .error (.io .connectionReset)) ?_ ?_ ?_ ?_ ?_ c reads
  · intro c c' r reads hnext hr
    refine iff_of_false ?_ ?_
    · intro h
      cases h with
      | ends h _ => exact hr (Prod.mk.inj (hnext.symm.trans h)).1
      | more h _ _ => exact hr (Prod.mk.inj (hnext.symm.trans h)).1
    · rintro (h | h)
      · exact hr h
      · have herror : r = .error (.io .connectionReset) := h
        rw [herror] at hnext
        exact nextFrame_ne_io hnext
  · intro c c' _
    refine iff_of_false nofun ?_
    rintro (h | h)
    · cases h
    · cases h
  · intro c c' kind reads hnext
    constructor
    · intro h
      cases h with
      | ends _ hcall =>
          rcases hcall with ⟨⟨⟩⟩ | ⟨⟨⟩⟩
          exact .inr rfl
    · rintro (h | h)
      · cases h
      · cases h
        exact .ends hnext (.inr rfl)
  · exact fun c c' reads hnext ↦ iff_of_true (.ends hnext (.inl rfl)) (.inl rfl)
  · intro c c' data reads out hnext hdata ih
    refine Iff.trans ⟨?_, .more hnext hdata⟩ ih
    intro h
    cases h with
    | ends _ hcall =>
        rcases hcall with ⟨⟨⟩⟩ | ⟨⟨⟩⟩
        exact absurd rfl hdata
    | more h _ hrest =>
        cases (Prod.mk.inj (hnext.symm.trans h)).2
        exact hrest

/-- The same input. -/
structure SameInput (c c' : FrameCodec) : Prop where
  inBuffer : c'.inBuffer = c.inBuffer
  header : c'.header = c.header

theorem SameInput.nextHeader {c c' : FrameCodec} (h : c.SameInput c') :
    c'.nextHeader.1 = c.nextHeader.1 ∧ c.nextHeader.2.SameInput c'.nextHeader.2 := by
  cases hheader : c.header with
  | some header =>
      rw [nextHeader_some hheader, nextHeader_some (h.header.trans hheader)]
      exact ⟨rfl, h⟩
  | none =>
      rw [nextHeader_none hheader, nextHeader_none (h.header.trans hheader), h.inBuffer]
      generalize FrameHeader.parse c.inBuffer = out
      obtain ⟨r, inBuffer⟩ := out
      cases r with
      | ok header => exact ⟨rfl, rfl, rfl⟩
      | error e => exact ⟨rfl, rfl, h.header⟩

/-- What comes next is a matter of the input. -/
theorem SameInput.nextFrame {c c' : FrameCodec} (h : c.SameInput c') (maxSize : Nat) :
    (c'.nextFrame maxSize).1 = (c.nextFrame maxSize).1 ∧
      (c.nextFrame maxSize).2.SameInput (c'.nextFrame maxSize).2 := by
  obtain ⟨hr, hsame⟩ := h.nextHeader
  rw [FrameCodec.nextFrame, FrameCodec.nextFrame]
  generalize c.nextHeader = out at hr hsame
  generalize c'.nextHeader = out' at hr hsame
  obtain ⟨r, d⟩ := out
  obtain ⟨r', d'⟩ := out'
  cases hr
  rcases r with e | _ | ⟨header, length⟩
  · exact ⟨rfl, hsame⟩
  · exact ⟨rfl, hsame⟩
  · simp only
    rw [hsame.inBuffer]
    split
    · exact ⟨rfl, hsame⟩
    · split
      · exact ⟨rfl, rfl, rfl⟩
      · exact ⟨rfl, hsame⟩

theorem EndsInside.sameInput {maxSize : Nat} {c c' : FrameCodec} {reads : List ReadCall}
    (h : EndsInside maxSize c reads) (hsame : c.SameInput c') : EndsInside maxSize c' reads := by
  have hnext : ∀ {c c' d : FrameCodec}, c.SameInput c' → c.nextFrame maxSize = (.ok none, d) →
      ∃ d', c'.nextFrame maxSize = (.ok none, d') ∧ d.SameInput d' := by
    intro c c' d hsame hd
    have hspec := hsame.nextFrame maxSize
    rw [hd] at hspec
    exact ⟨(c'.nextFrame maxSize).2, Prod.ext hspec.1 rfl, hspec.2⟩
  induction h generalizing c' with
  | ends h hcall =>
      obtain ⟨d', hd', -⟩ := hnext hsame h
      exact .ends hd' hcall
  | @more c d data reads h hdata _ ih =>
      obtain ⟨d', hd', hsame'⟩ := hnext hsame h
      exact .more hd' hdata (ih ⟨congrArg (· ++ data) hsame'.inBuffer, hsame'.header⟩)

end FrameCodec

namespace WebSocket

variable {u : Utf8Crate} {w w' w₀ : WebSocket} {f : Frame}

/-! ## What is owed -/

/-- The length of what is in the buffer of output. -/
def outLength (w : WebSocket) : Nat := w.context.frame.outBuffer.length

/-- **The bytes that have to be offered** to the stream to get all automatic replies written. -/
def owed (w : WebSocket) : Nat :=
  match w.context.additionalSend with
  | some f =>
      if w.automatic then w.outLength + (w.masked f).len
      else w.replyEnd - w.socket.written.length
  | none => w.replyEnd - w.socket.written.length

/-- The first operation offers so many bytes. -/
def OffersFirst (n : Nat) (w : WebSocket) : Prop :=
  ∃ m, w.socket.ops.head? = some (.write m) ∧ n ≤ m

/-- The first operation stays the first. -/
theorem head_of_prefix {ops ops' : List SocketOp} (h : ops <+: ops') {op : SocketOp}
    (hop : ops.head? = some op) : ops'.head? = some op := by
  obtain ⟨more, rfl⟩ := h
  rw [List.head?_append, hop]
  rfl

theorem output_length (w : WebSocket) : w.output.length = w.socket.written.length + w.outLength :=
  List.length_append

/-- If nothing waits in `additionalSend`, what is owed is in the buffer. -/
theorem owed_le (h : w.replyEnd ≤ w.output.length) :
    w.replyEnd - w.socket.written.length ≤ w.outLength := by
  rw [output_length] at h
  omega

/-- The stream is offered what is in the buffer. -/
theorem head_drained (hops : w.socket.ops = []) (hout : 0 < w.outLength) :
    w.drained.socket.ops.head? = some (.write w.outLength) := by
  obtain ⟨offers, hoffers⟩ := FrameCodec.drain_offers (List.ne_nil_of_length_pos hout)
    w.socket.answers.writes
  show (w.socket.ops ++ (FrameCodec.drain _ _).offers.map SocketOp.write).head? = _
  rw [hops, hoffers]
  rfl

/-! ## The end of `flush` -/

/-- A server that is closing. -/
def Closing (w : WebSocket) : Prop := w.context.role = .server ∧ w.context.state.canRead = false

theorem closing_iff (w : WebSocket) :
    w.Closing ↔ w.context.role = .server ∧ ¬ w.context.state.canRead = true := by
  rw [Closing, Bool.not_eq_true]

/-- What follows `writeAdditional` in `flush`. -/
def restOfFlush (shouldFlush : Bool) : Io Unit :=
  endIfClosing shouldFlush >>= fun _ ↦ onCodec FrameSocket.writeOutBuffer >>= fun _ ↦
    onCodec FrameSocket.flushStream

theorem flush_eq : flush = writeAdditional >>= restOfFlush := by
  show (writeAdditional >>= endIfClosing) >>= _ = _
  rw [bind_assoc]
  rfl

/-- A connection that stays open goes on. -/
theorem endIfClosing_open (h : ¬ Closing w) (b : Bool) :
    (endIfClosing b).attempt w = (.ok b, w) := by
  show EStateM.attempt (if w.context.role = .server ∧ ¬ w.context.state.canRead then _ else _) w = _
  rw [if_neg (fun hclosing ↦ h (w.closing_iff.2 hclosing))]
  rfl

/-- A connection that stays open writes what it can, and flushes the stream if that is all. -/
theorem restOfFlush_open (h : ¬ Closing w) (b : Bool) :
    (w.drain.result = .ok () ∧
        (restOfFlush b).attempt w = (onCodec FrameSocket.flushStream).attempt w.drained) ∨
      ∃ e, w.drain.result = .error e ∧ (restOfFlush b).attempt w = (.error e, w.drained) := by
  have hwrite := attempt_writeOutBuffer w
  rw [restOfFlush, EStateM.attempt_bind_ok (endIfClosing_open h b)]
  cases hdrain : w.drain.result with
  | ok a =>
      rw [hdrain] at hwrite
      exact .inl ⟨rfl, EStateM.attempt_bind_ok hwrite⟩
  | error e =>
      rw [hdrain] at hwrite
      exact .inr ⟨e, rfl, EStateM.attempt_bind_error hwrite⟩

/-- A server that is closing writes what it can, and ends if that is all. -/
theorem restOfFlush_closing (h : Closing w) (b : Bool) :
    (w.drain.result = .ok () ∧
        (restOfFlush b).attempt w = (.error .connectionClosed, w.drained.setState .terminated)) ∨
      ∃ e, w.drain.result = .error e ∧ (restOfFlush b).attempt w = (.error e, w.drained) := by
  have hend : (endIfClosing b).attempt w = (onCodec FrameSocket.writeOutBuffer >>= fun _ ↦ do
      modify (setState .terminated)
      throw .connectionClosed : Io Bool).attempt w := by
    show EStateM.attempt (if w.context.role = .server ∧ ¬ w.context.state.canRead then _ else _) w =
      _
    rw [if_pos (w.closing_iff.1 h)]
  have hwrite := attempt_writeOutBuffer w
  cases hdrain : w.drain.result with
  | ok a =>
      rw [hdrain] at hwrite
      refine .inl ⟨rfl, EStateM.attempt_bind_error ?_⟩
      rw [hend, EStateM.attempt_bind_ok hwrite]
      rfl
  | error e =>
      rw [hdrain] at hwrite
      refine .inr ⟨e, rfl, EStateM.attempt_bind_error ?_⟩
      rw [hend, EStateM.attempt_bind_error hwrite]

/-- A first operation stays the first while there is flushing. -/
theorem Flushes.ensures_head {α : Type} {m : Io α} (hm : Flushes m) {op : SocketOp}
    (h : w.socket.ops.head? = some op) : m.Ensures w fun _ w' ↦ w'.socket.ops.head? = some op :=
  (hm w).mono fun _ _ hw ↦ head_of_prefix hw.1.ops h

/-- What is in the buffer is offered first. -/
theorem restOfFlush_offers (hops : w.socket.ops = []) (hout : 0 < w.outLength) (b : Bool) :
    (restOfFlush b).Ensures w fun _ w' ↦ w'.socket.ops.head? = some (.write w.outLength) := by
  have hdrained := head_drained hops hout
  rw [EStateM.Ensures]
  by_cases hclosing : Closing w
  · rcases restOfFlush_closing hclosing b with ⟨-, hrest⟩ | ⟨e, -, hrest⟩
    · rw [hrest]
      exact hdrained
    · rw [hrest]
      exact hdrained
  · rcases restOfFlush_open hclosing b with ⟨-, hrest⟩ | ⟨e, -, hrest⟩
    · rw [hrest]
      exact flushes_flushStream.ensures_head hdrained
    · rw [hrest]
      exact hdrained

/-- With nothing in the buffer, nothing is written. -/
theorem restOfFlush_empty (hops : w.socket.ops = []) (hout : w.context.frame.outBuffer = [])
    (b : Bool) : (restOfFlush b).Ensures w fun r w' ↦
      ((∃ e, r = .error e ∧ e ≠ .io .wouldBlock) ∧ w'.socket.ops = []) ∨
        w'.socket.ops.head? = some .flush := by
  have hdrain : w.drain = ⟨.ok (), [], w.socket.answers.writes, [], []⟩ := by
    rw [drain, hout, FrameCodec.drain_nil]
  have hdrained : w.drained.socket.ops = [] := by
    show w.socket.ops ++ w.drain.offers.map SocketOp.write = []
    rw [hops, hdrain]
    rfl
  rw [EStateM.Ensures]
  by_cases hclosing : Closing w
  · rcases restOfFlush_closing hclosing b with ⟨-, hrest⟩ | ⟨e, herror, -⟩
    · rw [hrest]
      exact .inl ⟨⟨_, rfl, by rintro ⟨⟩⟩, hdrained⟩
    · rw [hdrain] at herror
      cases herror
  · rcases restOfFlush_open hclosing b with ⟨-, hrest⟩ | ⟨e, herror, -⟩
    · rw [hrest, attempt_flushStream]
      refine .inr ?_
      show (w.drained.socket.ops ++ [SocketOp.flush]).head? = _
      rw [hdrained]
      rfl
    · rw [hdrain] at herror
      cases herror

/-! ## The front of `read` -/

theorem flushes_restOfFlush (b : Bool) : Flushes (restOfFlush b) :=
  (flushes_endIfClosing b).bind fun _ ↦ flushes_writeOutBuffer.bind fun _ ↦ flushes_flushStream

theorem outLength_buffered (f : Frame) (w : WebSocket) :
    (w.buffered f).outLength = w.outLength + (w.masked f).len := by
  show (w.context.frame.outBuffer ++ (w.masked f).format).length = _
  rw [List.length_append, Frame.length_format]
  rfl

/-- **A reply that has room is offered first**, with all that is in the buffer before it. -/
theorem flush_fits (hops : w.socket.ops = []) (ha : w.context.additionalSend = some f)
    (hfits : w.Fits f) : flush.Ensures w fun _ w' ↦
      w'.socket.ops.head? = some (.write (w.outLength + (w.masked f).len)) := by
  have hlength : (w.taken.buffered f).outLength = w.outLength + (w.masked f).len :=
    outLength_buffered f w.taken
  have hpos : 0 < (w.taken.buffered f).outLength := by
    have hlen := (w.masked f).two_le_len
    omega
  have hdrained : (w.taken.buffered f).drained.socket.ops.head? =
      some (.write (w.taken.buffered f).outLength) := head_drained hops hpos
  rw [flush_eq, EStateM.Ensures, EStateM.attempt_bind, writeAdditional_fits ha hfits, ← hlength]
  by_cases hlarge : w.taken.context.frame.outBufferWriteLen <
      (w.taken.buffered f).context.frame.outBuffer.length
  · rw [bufferFrame_large (w := w.taken) hfits hlarge]
    cases checkConnectionReset w.taken.context.state (w.taken.buffered f).drain.result with
    | ok a => exact (flushes_restOfFlush true).ensures_head hdrained
    | error e => exact hdrained
  · rw [bufferFrame_small (w := w.taken) hfits hlarge]
    exact restOfFlush_offers (w := (w.taken.buffered f).recordReply) hops hpos true

/-- A reply without room is not offered, but what is in the buffer is. -/
theorem flush_full (hops : w.socket.ops = []) (ha : w.context.additionalSend = some f)
    (hfull : ¬ w.Fits f) (hout : 0 < w.outLength) :
    flush.Ensures w fun _ w' ↦ w'.socket.ops.head? = some (.write w.outLength) := by
  rw [flush_eq, EStateM.Ensures, EStateM.attempt_bind_ok (writeAdditional_full ha hfull)]
  exact restOfFlush_offers (w := w.putBack f) hops hout false

/-- A reply without room and nothing in the buffer: nothing is offered. -/
theorem flush_full_empty (hops : w.socket.ops = []) (ha : w.context.additionalSend = some f)
    (hfull : ¬ w.Fits f) (hout : w.context.frame.outBuffer = []) :
    flush.Ensures w fun r w' ↦
      ((∃ e, r = .error e ∧ e ≠ .io .wouldBlock) ∧ w'.socket.ops = []) ∨
        w'.socket.ops.head? = some .flush := by
  rw [flush_eq, EStateM.Ensures, EStateM.attempt_bind_ok (writeAdditional_full ha hfull)]
  exact restOfFlush_empty (w := w.putBack f) hops hout false

/-- A first operation stays the first. -/
theorem kept_head (op : SocketOp) : Kept fun w ↦ w.socket.ops.head? = some op where
  flushed := fun h hw ↦ head_of_prefix hw.ops h
  received := fun h ↦ head_of_prefix (List.prefix_append _ _) h
  answered := fun h hw ↦ by
    rw [hw.codec.1]
    exact h

/-- What `read` does in a connection that is not terminated. -/
theorem attempt_read (h : w.context.state ≠ .terminated) :
    (read u).attempt w = (beforeRead >>= fun _ ↦ readMessageFrame u >>= fun message ↦
      match message with
      | some message => pure message
      | none => readLoop u (w.readFuel - 1)).attempt w := by
  show EStateM.attempt (EStateM.ofExcept w.context.state.checkNotTerminated >>= fun _ ↦
    readLoop u w.readFuel) w = _
  cases hstate : w.context.state with
  | terminated => exact absurd hstate h
  | active => rfl
  | closedByUs => rfl
  | closedByPeer => rfl
  | closeAcknowledged => rfl

theorem beforeRead_some (h : w.context.additionalSend = some f) :
    beforeRead.attempt w = (blockIgnored (flush.attempt w).1, (flush.attempt w).2) := by
  show EStateM.attempt (if w.context.additionalSend.isSome then noBlock flush else _) w = _
  rw [h]
  exact attempt_noBlock flush w

/-- If something waits in `additionalSend`, the first operation of `read` is that of `flush`. -/
theorem read_head (hstate : w.context.state ≠ .terminated)
    (ha : w.context.additionalSend = some f) {op : SocketOp}
    (hflush : flush.Ensures w fun _ w' ↦ w'.socket.ops.head? = some op) :
    (read u).Ensures w fun _ w' ↦ w'.socket.ops.head? = some op := by
  have hbefore : beforeRead.Ensures w fun _ w' ↦ w'.socket.ops.head? = some op := by
    rw [EStateM.Ensures, beforeRead_some ha]
    exact hflush
  rw [EStateM.Ensures, attempt_read hstate]
  exact hbefore.bind (fun _ _ hw ↦ (kept_head op).ensures_turn
    (fun _ hw ↦ (kept_head op).ensures_readLoop _ hw) hw) fun _ _ hw ↦ hw

/-- Nothing is written. -/
def OnlyReads (w : WebSocket) : Prop := ∀ op ∈ w.socket.ops, op = .read

theorem onlyReads_received (h : OnlyReads w) : OnlyReads w.received := by
  intro op hop
  rcases List.mem_append.1 hop with hop | hop
  · exact h op hop
  · exact List.eq_of_mem_replicate hop

/-- A turn of the loop that goes on has kept no answer. -/
theorem readMessageFrame_none (h : (readMessageFrame u).attempt w = (.ok none, w')) :
    ∃ incomplete, w' = w.received.setIncomplete incomplete := by
  have hensures := ensures_readMessageFrame (u := u) w
  rw [EStateM.Ensures, h] at hensures
  rcases hensures with ⟨f, hf, -⟩ | ⟨-, -, herror⟩ | ⟨e, -, -, herror⟩
  · rw [readMessageFrame_frame hf] at h
    exact processFrame_none h
  · cases herror
  · cases herror

/-- With nothing in `additionalSend`, nothing is written before something is read. -/
theorem beforeRead_none (ha : w.context.additionalSend = none) :
    (Closing w ∧ beforeRead.attempt w = (.error .connectionClosed, w.setState .terminated)) ∨
      (¬ Closing w ∧ beforeRead.attempt w = (.ok (), w)) := by
  have hattempt : beforeRead.attempt w = EStateM.attempt
      (if w.context.additionalSend.isSome then noBlock flush else
        if w.context.role = .server ∧ ¬ w.context.state.canRead then do
          set (w.setState .terminated)
          throw .connectionClosed
        else pure ()) w := rfl
  rw [hattempt, ha, if_neg (fun h ↦ nomatch h)]
  by_cases hclosing : Closing w
  · rw [if_pos (w.closing_iff.1 hclosing)]
    exact .inl ⟨hclosing, rfl⟩
  · rw [if_neg (fun h ↦ hclosing (w.closing_iff.2 h))]
    exact .inr ⟨hclosing, rfl⟩

/-- **With nothing in `additionalSend`, `read` writes nothing.** -/
theorem readLoop_onlyReads (fuel : Nat) (ha : w.context.additionalSend = none) (h : OnlyReads w) :
    (readLoop u fuel).Ensures w fun _ w' ↦ OnlyReads w' := by
  induction fuel generalizing w with
  | zero => exact h
  | succ fuel ih =>
      have hbefore : beforeRead.Ensures w fun _ w' ↦
          w'.context.additionalSend = none ∧ OnlyReads w' := by
        rw [EStateM.Ensures]
        rcases beforeRead_none ha with ⟨-, hbefore⟩ | ⟨-, hbefore⟩
        · rw [hbefore]
          exact ⟨ha, h⟩
        · rw [hbefore]
          exact ⟨ha, h⟩
      refine hbefore.bind ?_ fun _ _ hw ↦ hw.2
      rintro _ w₁ ⟨ha₁, hreads⟩
      have hkeep : ∀ {w'}, Answered w₁.received w' → OnlyReads w' := by
        intro w' hw'
        rw [OnlyReads, hw'.codec.1]
        exact onlyReads_received hreads
      have hattempt : (readMessageFrame u).Ensures w₁ fun r w' ↦
          (readMessageFrame u).attempt w₁ = (r, w') := rfl
      refine ((ensures_readMessageFrame w₁).and hattempt).bind ?_ ?_
      · rintro message w' ⟨⟨f, -, hw', -⟩ | ⟨-, -, herror⟩ | ⟨e, -, -, herror⟩, hout⟩
        · cases message with
          | some message => exact hkeep hw'
          | none =>
              obtain ⟨incomplete, rfl⟩ := readMessageFrame_none hout
              exact ih (w := w₁.received.setIncomplete incomplete) ha₁ (onlyReads_received hreads)
        · cases herror
        · cases herror
      · rintro e w' ⟨⟨f, -, hw', -⟩ | ⟨-, rfl, -⟩ | ⟨e, -, rfl, -⟩, -⟩
        · exact hkeep hw'
        · exact onlyReads_received hreads
        · exact onlyReads_received hreads

/-- If flushing fails, and does not just block, then `read` fails. -/
theorem read_error {e : Error} (hstate : w.context.state ≠ .terminated)
    (ha : w.context.additionalSend = some f) (hflush : flush.attempt w = (.error e, w'))
    (he : e ≠ .io .wouldBlock) : (read u).attempt w = (.error e, w') := by
  have hignored : blockIgnored (.error e) = .error e := by
    rw [blockIgnored.eq_def]
    split
    · rename_i hblock
      exact absurd (Except.error.inj hblock) he
    · rfl
  have hbefore : beforeRead.attempt w = (.error e, w') := by
    rw [beforeRead_some ha, hflush, hignored]
  rw [attempt_read hstate]
  exact EStateM.attempt_bind_error hbefore

/-- With a reply that has no room and an empty buffer, `read` offers nothing at first. -/
theorem read_full_empty (hops : w.socket.ops = []) (hstate : w.context.state ≠ .terminated)
    (ha : w.context.additionalSend = some f) (hfull : ¬ w.Fits f)
    (hout : w.context.frame.outBuffer = []) (n : Nat) :
    (read u).Ensures w fun _ w' ↦ ¬ OffersFirst n w' := by
  have hflush := flush_full_empty hops ha hfull hout
  have hattempt : flush.Ensures w fun r w' ↦ flush.attempt w = (r, w') := rfl
  rcases hflush.and hattempt with ⟨⟨⟨e, hr, he⟩, hnone⟩ | hhead, hattempt⟩
  · rw [hr] at hattempt
    rw [EStateM.Ensures, read_error hstate ha hattempt he]
    rintro ⟨m, hm, -⟩
    rw [hnone] at hm
    cases hm
  · have hread : (read u).Ensures w fun _ w' ↦ w'.socket.ops.head? = some .flush :=
      read_head hstate ha hhead
    refine hread.mono ?_
    rintro _ w' hw' ⟨m, hm, -⟩
    cases hm.symm.trans hw'

/-- **When `read` offers what is owed**: a frame waits in `additionalSend`, and if it is itself an
automatic reply then it has room in the buffer. -/
theorem offersFirst_iff (hops : w.socket.ops = []) (hstate : w.context.state ≠ .terminated)
    (hreplies : w.replyEnd ≤ w.output.length) (howed : 0 < w.owed) :
    (read u).Ensures w fun _ w' ↦ OffersFirst w.owed w' ↔
      ∃ f, w.context.additionalSend = some f ∧ (w.automatic → w.Fits f) := by
  have hle := owed_le hreplies
  cases ha : w.context.additionalSend with
  | none =>
      have hreads : OnlyReads w := by
        intro op hop
        rw [hops] at hop
        cases hop
      have hread : (read u).Ensures w fun _ w' ↦ OnlyReads w' := by
        rw [EStateM.Ensures, attempt_read hstate]
        exact readLoop_onlyReads (u := u) w.readFuel ha hreads
      refine hread.mono fun _ w' hw' ↦ ⟨?_, ?_⟩
      · rintro ⟨m, hhead, -⟩
        cases hw' _ (List.mem_of_head? hhead)
      · rintro ⟨f, ⟨⟩, -⟩
  | some f =>
      have howed' : w.owed = if w.automatic then w.outLength + (w.masked f).len
          else w.replyEnd - w.socket.written.length := by
        rw [owed, ha]
      by_cases hfits : w.Fits f
      · refine (read_head hstate ha (flush_fits hops ha hfits)).mono fun _ w' hw' ↦ ?_
        refine ⟨fun _ ↦ ⟨f, rfl, fun _ ↦ hfits⟩, fun _ ↦ ⟨_, hw', ?_⟩⟩
        rw [howed']
        split
        · exact Nat.le_refl _
        · exact hle.trans (Nat.le_add_right _ _)
      · cases hauto : w.automatic with
        | true =>
            rw [howed', if_pos hauto]
            have hno : ¬ ∃ f', some f = some f' ∧ (true = true → w.Fits f') := by
              rintro ⟨_, ⟨⟩, h⟩
              exact hfits (h rfl)
            by_cases hout : 0 < w.outLength
            · refine (read_head hstate ha (flush_full hops ha hfits hout)).mono fun _ w' hw' ↦ ?_
              refine iff_of_false ?_ hno
              rintro ⟨m, hhead, hm⟩
              cases hhead.symm.trans hw'
              have hlen := (w.masked f).two_le_len
              omega
            · have hempty : w.context.frame.outBuffer = [] :=
                List.eq_nil_of_length_eq_zero (Nat.eq_zero_of_not_pos hout)
              exact (read_full_empty hops hstate ha hfits hempty _).mono fun _ _ hw' ↦
                iff_of_false hw' hno
        | false =>
            rw [howed', hauto] at howed
            have hout : 0 < w.outLength := Nat.lt_of_lt_of_le howed hle
            refine (read_head hstate ha (flush_full hops ha hfits hout)).mono fun _ w' hw' ↦ ?_
            refine ⟨fun _ ↦ ⟨f, rfl, by rintro ⟨⟩⟩, fun _ ↦ ⟨_, hw', ?_⟩⟩
            rw [howed', hauto]
            exact hle

/-! ## How a server ends -/

/-- All that was to be written has been. -/
def AllWritten (w : WebSocket) : Prop :=
  w.context.frame.outBuffer = [] ∧ w.context.additionalSend = none

/-- **How many bytes `flush` offers first.** -/
def offered (w : WebSocket) : Nat :=
  match w.context.additionalSend with
  | some f => if w.Fits f then w.outLength + (w.masked f).len else w.outLength
  | none => w.outLength

/-- The frame of `additionalSend` has no room. -/
def Full (w : WebSocket) : Prop := ∃ f, w.context.additionalSend = some f ∧ ¬ w.Fits f

/-- The frame of `additionalSend` has room, and with it there is so much in the buffer that it is
written at once. -/
def Large (w : WebSocket) : Prop :=
  ∃ f, w.context.additionalSend = some f ∧ w.Fits f ∧
    w.context.frame.outBufferWriteLen < w.outLength + (w.masked f).len

/-- What `flush` comes to in a server that is closing. -/
structure EndsFlush (w : WebSocket) (r : Except Error Unit) (w' : WebSocket) : Prop where
  written : stopsWith w.socket.answers.writes w.offered = none →
    r = .error .connectionClosed ∧ (AllWritten w' ↔ ¬ Full w)
  stopped : ∀ kind, stopsWith w.socket.answers.writes w.offered = some kind →
    w'.context.frame.outBuffer ≠ [] ∧ w'.context.state = w.context.state ∧
      (kind = .connectionReset ∧ Large w ∧ r = .error .connectionClosed ∨
        ¬ (kind = .connectionReset ∧ Large w) ∧ r = .error (.io kind))

/-- The end of `flush`, when all that is offered is in the buffer. -/
theorem endsFlush_restOfFlush {w₁ : WebSocket} (h : Closing w₁)
    (hwrites : w₁.socket.answers.writes = w.socket.answers.writes)
    (hoffered : w.offered = w₁.outLength)
    (hfull : w₁.context.additionalSend = none ↔ ¬ Full w) (hlarge : ¬ Large w)
    (hstate : w₁.context.state = w.context.state) (b : Bool) :
    (restOfFlush b).Ensures w₁ fun r w' ↦ EndsFlush w r w' := by
  have hdrain : (stopsWith w.socket.answers.writes w.offered = none ∧ w₁.drain.result = .ok () ∧
      w₁.drain.rest = []) ∨ ∃ kind, stopsWith w.socket.answers.writes w.offered = some kind ∧
        w₁.drain.result = .error (.io kind) ∧ w₁.drain.rest ≠ [] := by
    rw [hoffered, ← hwrites]
    exact FrameCodec.drain_result _ _
  rw [EStateM.Ensures]
  rcases restOfFlush_closing h b with ⟨hok, hrest⟩ | ⟨e, herror, hrest⟩
  · rw [hrest]
    rcases hdrain with ⟨hstop, -, hnil⟩ | ⟨kind, -, herror, -⟩
    · refine ⟨fun _ ↦ ⟨rfl, ?_⟩, fun kind hkind ↦ ?_⟩
      · rw [← hfull]
        exact ⟨And.right, fun hnone ↦ ⟨hnil, hnone⟩⟩
      · cases hstop.symm.trans hkind
    · cases hok.symm.trans herror
  · rw [hrest]
    rcases hdrain with ⟨-, hok, -⟩ | ⟨kind, hstop, hio, hne⟩
    · cases hok.symm.trans herror
    · cases hio.symm.trans herror
      refine ⟨fun hnone ↦ ?_, fun kind' hkind ↦ ?_⟩
      · cases hstop.symm.trans hnone
      · cases hstop.symm.trans hkind
        exact ⟨hne, hstate, .inr ⟨fun h ↦ hlarge h.2, rfl⟩⟩

/-- What `flush` comes to if its frame is written at once. -/
theorem endsFlush_large (h : Closing w) (ha : w.context.additionalSend = some f) (hfits : w.Fits f)
    (hlarge : w.context.frame.outBufferWriteLen < w.outLength + (w.masked f).len) :
    (writeAdditional >>= restOfFlush).Ensures w fun r w' ↦ EndsFlush w r w' := by
  have hlength : (w.taken.buffered f).outLength = w.outLength + (w.masked f).len :=
    outLength_buffered f w.taken
  have hoffered : w.offered = (w.taken.buffered f).outLength := by
    rw [offered, ha, hlength]
    exact if_pos hfits
  have hfull : ¬ Full w := by
    rintro ⟨f', hf', hno⟩
    cases ha.symm.trans hf'
    exact hno hfits
  have hdrain : (stopsWith w.socket.answers.writes w.offered = none ∧
      (w.taken.buffered f).drain.result = .ok () ∧ (w.taken.buffered f).drain.rest = []) ∨
      ∃ kind, stopsWith w.socket.answers.writes w.offered = some kind ∧
        (w.taken.buffered f).drain.result = .error (.io kind) ∧
          (w.taken.buffered f).drain.rest ≠ [] := by
    rw [hoffered]
    exact FrameCodec.drain_result _ _
  have hbuffer : (bufferFrame f).attempt w.taken = _ :=
    bufferFrame_large (w := w.taken) hfits (lt_of_lt_of_eq hlarge hlength.symm)
  have hattempt := writeAdditional_fits ha hfits
  rw [hbuffer] at hattempt
  rcases hdrain with ⟨hstop, hok, hnil⟩ | ⟨kind, hstop, hio, hne⟩
  · rw [hok] at hattempt
    rw [EStateM.Ensures, EStateM.attempt_bind_ok hattempt]
    have hempty : ((w.taken.buffered f).drained.recordReply).drain =
        ⟨.ok (), [], ((w.taken.buffered f).drained.recordReply).socket.answers.writes, [], []⟩ := by
      rw [drain]
      show FrameCodec.drain (w.taken.buffered f).drain.rest _ = _
      rw [hnil, FrameCodec.drain_nil]
    rcases restOfFlush_closing (w := (w.taken.buffered f).drained.recordReply) h true with
      ⟨-, hrest⟩ | ⟨e, herror, -⟩
    · rw [hrest]
      refine ⟨fun _ ↦ ⟨rfl, iff_of_true ⟨?_, rfl⟩ hfull⟩, ?_⟩
      · show ((w.taken.buffered f).drained.recordReply).drain.rest = []
        rw [hempty]
      · intro kind hkind
        cases hstop.symm.trans hkind
    · rw [hempty] at herror
      cases herror
  · rw [hio, checkConnectionReset_error] at hattempt
    rw [EStateM.Ensures, EStateM.attempt_bind_error hattempt]
    refine ⟨fun hnone ↦ ?_, fun kind' hkind ↦ ?_⟩
    · cases hstop.symm.trans hnone
    cases hstop.symm.trans hkind
    refine ⟨hne, rfl, ?_⟩
    have hclosing : w.taken.context.state.canRead = false := h.2
    have hlarge' : Large w := ⟨f, ha, hfits, hlarge⟩
    by_cases hkind : kind = .connectionReset
    · rw [if_pos ⟨hclosing, congrArg Error.io hkind⟩]
      exact .inl ⟨hkind, hlarge', rfl⟩
    · rw [if_neg fun h ↦ hkind (Error.io.inj h.2)]
      exact .inr ⟨fun h ↦ hkind h.1, rfl⟩

/-- **What `flush` comes to in a server that is closing.** -/
theorem endsFlush_flush (h : Closing w) : flush.Ensures w fun r w' ↦ EndsFlush w r w' := by
  rw [flush_eq]
  cases ha : w.context.additionalSend with
  | none =>
      have hnone : ∀ {p : Frame → Prop}, ¬ ∃ f, w.context.additionalSend = some f ∧ p f := by
        rintro p ⟨f, hf, -⟩
        cases ha.symm.trans hf
      rw [EStateM.Ensures, EStateM.attempt_bind_ok (writeAdditional_none ha)]
      refine endsFlush_restOfFlush h rfl ?_ (iff_of_true ha hnone) hnone rfl false
      rw [offered, ha]
  | some f =>
      by_cases hfits : w.Fits f
      · have hfull : ¬ Full w := by
          rintro ⟨f', hf', hno⟩
          cases ha.symm.trans hf'
          exact hno hfits
        by_cases hlarge : w.context.frame.outBufferWriteLen < w.outLength + (w.masked f).len
        · exact endsFlush_large h ha hfits hlarge
        · have hlength : (w.taken.buffered f).outLength = w.outLength + (w.masked f).len :=
            outLength_buffered f w.taken
          have hbuffer : (bufferFrame f).attempt w.taken = _ :=
            bufferFrame_small (w := w.taken) hfits (fun hlt ↦ hlarge (lt_of_lt_of_eq hlt hlength))
          have hattempt := writeAdditional_fits ha hfits
          rw [hbuffer] at hattempt
          rw [EStateM.Ensures, EStateM.attempt_bind_ok hattempt]
          show EStateM.Ensures (restOfFlush true) _ fun r w' ↦ EndsFlush w r w'
          have hclosing : Closing (w.taken.buffered f).recordReply := h
          refine endsFlush_restOfFlush (w := w) hclosing rfl ?_
            (iff_of_true rfl hfull) ?_ rfl true
          · rw [offered, ha]
            exact (if_pos hfits).trans hlength.symm
          · rintro ⟨f', hf', -, hlt⟩
            cases ha.symm.trans hf'
            exact hlarge hlt
      · rw [EStateM.Ensures, EStateM.attempt_bind_ok (writeAdditional_full ha hfits)]
        show EStateM.Ensures (restOfFlush false) _ fun r w' ↦ EndsFlush w r w'
        have hclosing : Closing (w.putBack f) := h
        refine endsFlush_restOfFlush (w := w) hclosing rfl ?_ ?_ ?_ rfl false
        · rw [offered, ha]
          exact if_neg hfits
        · exact iff_of_false (by rintro ⟨⟩) (not_not_intro ⟨f, ha, hfits⟩)
        · rintro ⟨f', hf', hfits', -⟩
          cases ha.symm.trans hf'
          exact hfits hfits'

/-- The input ends, or is reset, before it makes a whole frame. -/
def EndsInside (w : WebSocket) : Prop :=
  FrameCodec.EndsInside (w.context.config.maxFrameSize.getD usizeMax) w.context.frame
    w.socket.answers.reads

theorem endsInside_iff (w : WebSocket) : w.EndsInside ↔ w.frameRead.result = .ok none ∨
    w.frameRead.result = .error (.io .connectionReset) :=
  FrameCodec.endsInside_iff _ _ _

/-- Flushing does not change what there is to be read. -/
theorem Flushed.endsInside_iff (h : Flushed w w') : w'.EndsInside ↔ w.EndsInside := by
  have hconfig : w'.context.config = w.context.config := congrArg Input.config h.input
  have hreads : w'.socket.answers.reads = w.socket.answers.reads := congrArg Input.reads h.input
  have hinBuffer : w'.context.frame.inBuffer = w.context.frame.inBuffer :=
    congrArg Input.inBuffer h.input
  have hheader : w'.context.frame.header = w.context.frame.header := congrArg Input.header h.input
  rw [EndsInside, EndsInside, hconfig, hreads]
  exact ⟨fun h' ↦ h'.sameInput ⟨hinBuffer.symm, hheader.symm⟩,
    fun h' ↦ h'.sameInput ⟨hinBuffer, hheader⟩⟩

/-- A call that flushes in a server that is closing. -/
inductive FlushCall (w : WebSocket) : Call → Prop
  | read (h : w.context.state ≠ .terminated) : FlushCall w .read
  | flush : FlushCall w .flush
  | close (code : Option CloseFrame) : FlushCall w (.close code)

/-- **A server that is closing ends too early**: with bytes in the buffer that it does not look at,
with a reply that has no room in the buffer, with a stream that is reset while the reply is
written, or with a stream that first takes no more and then ends. -/
inductive EndsEarly (w : WebSocket) : Call → Prop
  | unflushed (h : Closing w) (hstate : w.context.state ≠ .terminated)
      (ha : w.context.additionalSend = none) (hout : w.context.frame.outBuffer ≠ []) :
      EndsEarly w .read
  | full {c : Call} (h : Closing w) (hc : FlushCall w c) (hfull : Full w)
      (hstop : stopsWith w.socket.answers.writes w.offered = none) : EndsEarly w c
  | reset {c : Call} (h : Closing w) (hc : FlushCall w c) (hlarge : Large w)
      (hstop : stopsWith w.socket.answers.writes w.offered = some .connectionReset) :
      EndsEarly w c
  | blocked (h : Closing w) (hstate : w.context.state ≠ .terminated)
      (ha : w.context.additionalSend.isSome)
      (hstop : stopsWith w.socket.answers.writes w.offered = some .wouldBlock)
      (hends : w.EndsInside) : EndsEarly w .read

/-- A call says that the connection is closed, and not all has been written. -/
def Cut {α : Type} (r : Except Error α) (w : WebSocket) : Prop :=
  r = .error .connectionClosed ∧ ¬ AllWritten w

/-- **What `flush` cuts short.** -/
theorem cut_flush (h : Closing w) : flush.Ensures w fun r w' ↦ Cut r w' ↔
    (Full w ∧ stopsWith w.socket.answers.writes w.offered = none) ∨
      Large w ∧ stopsWith w.socket.answers.writes w.offered = some .connectionReset := by
  refine (endsFlush_flush h).mono fun r w' hw' ↦ ?_
  cases hstop : stopsWith w.socket.answers.writes w.offered with
  | none =>
      obtain ⟨hr, hwritten⟩ := hw'.written hstop
      constructor
      · rintro ⟨-, hnot⟩
        exact .inl ⟨by_contra fun hfull ↦ hnot (hwritten.2 hfull), rfl⟩
      · rintro (⟨hfull, -⟩ | ⟨-, ⟨⟩⟩)
        exact ⟨hr, fun hall ↦ hwritten.1 hall hfull⟩
  | some kind =>
      obtain ⟨hout, -, ⟨rfl, hlarge, hr⟩ | ⟨hother, hr⟩⟩ := hw'.stopped kind hstop
      · exact iff_of_true ⟨hr, fun hall ↦ hout hall.1⟩ (.inr ⟨hlarge, rfl⟩)
      · refine iff_of_false ?_ ?_
        · rintro ⟨hclosed, -⟩
          cases hr.symm.trans hclosed
        · rintro (⟨-, ⟨⟩⟩ | ⟨hlarge, ⟨⟩⟩)
          exact hother ⟨rfl, hlarge⟩

/-- **What is cut short by the end of the input.** -/
theorem cut_readMessageFrame (hread : w.context.state.canRead = false)
    (hstate : w.context.state ≠ .terminated) (hout : w.context.frame.outBuffer ≠ [])
    {next : Io Message} :
    (readMessageFrame u >>= fun message ↦ match message with
      | some message => Pure.pure message
      | none => next).Ensures w fun r w' ↦ Cut r w' ↔ w.EndsInside := by
  have hnot : ∀ {w'}, Answered w.received w' → ¬ AllWritten w' := by
    intro w' hw' hall
    have hframe := hall.1
    rw [hw'.codec.2.1, (sameOutput_received w).outBuffer] at hframe
    exact hout hframe
  rw [endsInside_iff]
  have hattempt : (readMessageFrame u).Ensures w fun r w' ↦
      (readMessageFrame u).attempt w = (r, w') := rfl
  refine ((ensures_readMessageFrame w).and hattempt).bind ?_ ?_
  · rintro message w' ⟨⟨f, hf, -, -⟩ | ⟨-, -, herror⟩ | ⟨e, -, -, herror⟩, hr⟩
    · rw [readMessageFrame_frame hf, processFrame_closing (w := w.received) hread] at hr
      cases hr
    · cases herror
    · cases herror
  · rintro e w' ⟨⟨f, hf, -, hverdict⟩ | ⟨hend, rfl, hr⟩ | ⟨e', he', rfl, hr⟩, -⟩
    · refine iff_of_false ?_ ?_
      · rintro ⟨⟨⟩, -⟩
        exact hverdict _ rfl
      · rw [hf]
        rintro (⟨⟨⟩⟩ | ⟨⟨⟩⟩)
    · have hclosed : w.context.state = .closedByPeer ∨ w.context.state = .closeAcknowledged := by
        revert hread hstate
        cases w.context.state with
        | active => exact nofun
        | closedByUs => exact nofun
        | closedByPeer => exact fun _ _ ↦ .inl rfl
        | closeAcknowledged => exact fun _ _ ↦ .inr rfl
        | terminated => exact fun _ h ↦ absurd rfl h
      rw [if_pos hclosed] at hr
      cases hr
      exact iff_of_true ⟨rfl, hnot .terminated⟩ (.inl hend)
    · by_cases hreset : e' = .io .connectionReset
      · rw [if_pos ⟨hread, hreset⟩] at hr
        cases hr
        exact iff_of_true ⟨rfl, hnot (.refl _)⟩ (.inr (hreset ▸ he'))
      · rw [if_neg fun h ↦ hreset h.2] at hr
        cases hr
        refine iff_of_false ?_ ?_
        · rintro ⟨⟨⟩, -⟩
          rcases frameRead_error he' with h | ⟨kind, ⟨⟩⟩
          exact h
        · rintro (h | h)
          · cases he'.symm.trans h
          · cases he'.symm.trans h
            exact hreset rfl

/-- A frame that waits, in a server that is closing: what `read` cuts short. -/
theorem cut_read_some (h : Closing w) (hstate : w.context.state ≠ .terminated)
    (ha : w.context.additionalSend = some f) :
    (read u).Ensures w fun r w' ↦ Cut r w' ↔ EndsEarly w .read := by
  have hattempt : flush.Ensures w fun r w' ↦ flush.attempt w = (r, w') ∧ Flushed w w' :=
    ⟨rfl, (flushes_flush w).1⟩
  have hflush := ((endsFlush_flush h).and (cut_flush h)).and hattempt
  rw [EStateM.Ensures] at hflush
  generalize (flush.attempt w).1 = r at hflush
  generalize (flush.attempt w).2 = w₁ at hflush
  obtain ⟨⟨hends, hcut⟩, hattempt, hflushed⟩ := hflush
  by_cases hblock : stopsWith w.socket.answers.writes w.offered = some .wouldBlock
  · obtain ⟨hout, hsame, ⟨⟨⟩, -⟩ | ⟨-, hr⟩⟩ := hends.stopped _ hblock
    have hbefore : beforeRead.attempt w = (.ok (), w₁) := by
      rw [beforeRead_some ha, hattempt, hr]
      rfl
    have hiff : w.EndsInside ↔ EndsEarly w .read := by
      refine ⟨.blocked h hstate (Option.isSome_of_eq_some ha) hblock, ?_⟩
      intro hearly
      cases hearly with
      | unflushed _ _ hnone => cases ha.symm.trans hnone
      | full _ _ _ hstop => cases hblock.symm.trans hstop
      | reset _ _ _ hstop => cases hblock.symm.trans hstop
      | blocked _ _ _ _ hends => exact hends
    rw [EStateM.Ensures, attempt_read hstate, EStateM.attempt_bind_ok hbefore]
    show EStateM.Ensures _ w₁ fun r w' ↦ Cut r w' ↔ EndsEarly w .read
    refine (cut_readMessageFrame ?_ ?_ hout).mono fun r' w' hw' ↦ ?_
    · rw [hsame]
      exact h.2
    · rw [hsame]
      exact hstate
    · exact (hw'.trans hflushed.endsInside_iff).trans hiff
  · obtain ⟨e, hr, he⟩ : ∃ e, r = .error e ∧ e ≠ .io .wouldBlock := by
      cases hstop : stopsWith w.socket.answers.writes w.offered with
      | none => exact ⟨_, (hends.written hstop).1, by rintro ⟨⟩⟩
      | some kind =>
          rcases (hends.stopped kind hstop).2.2 with ⟨-, -, hr⟩ | ⟨-, hr⟩
          · exact ⟨_, hr, by rintro ⟨⟩⟩
          · refine ⟨_, hr, ?_⟩
            rintro ⟨⟩
            exact hblock hstop
    rw [hr] at hattempt hcut
    rw [EStateM.Ensures, read_error hstate ha hattempt he]
    have hsame : Cut (.error e : Except Error Message) w₁ ↔ Cut (.error e : Except Error Unit) w₁ :=
      and_congr_left fun _ ↦ ⟨fun h ↦ congrArg _ (Except.error.inj h),
        fun h ↦ congrArg _ (Except.error.inj h)⟩
    refine (hsame.trans hcut).trans ⟨?_, ?_⟩
    · rintro (⟨hfull, hstop⟩ | ⟨hlarge, hstop⟩)
      · exact .full h (.read hstate) hfull hstop
      · exact .reset h (.read hstate) hlarge hstop
    · intro hearly
      cases hearly with
      | unflushed _ _ hnone => cases ha.symm.trans hnone
      | full _ _ hfull hstop => exact .inl ⟨hfull, hstop⟩
      | reset _ _ hlarge hstop => exact .inr ⟨hlarge, hstop⟩
      | blocked _ _ _ hstop => exact absurd hstop hblock

/-- **What `read` cuts short** in a server that is closing. -/
theorem cut_read (h : Closing w) : (read u).Ensures w fun r w' ↦ Cut r w' ↔ EndsEarly w .read := by
  by_cases hstate : w.context.state = .terminated
  · have hread : (read u).attempt w = (.error .alreadyClosed, w) := by
      show EStateM.attempt (EStateM.ofExcept w.context.state.checkNotTerminated >>= fun _ ↦
        readLoop u w.readFuel) w = _
      rw [hstate]
      rfl
    rw [EStateM.Ensures, hread]
    refine iff_of_false (fun h ↦ by cases h.1) ?_
    intro hearly
    cases hearly with
    | unflushed _ hne => exact hne hstate
    | full _ hc =>
        cases hc with
        | read hne => exact hne hstate
    | reset _ hc =>
        cases hc with
        | read hne => exact hne hstate
    | blocked _ hne => exact hne hstate
  · cases ha : w.context.additionalSend with
    | none =>
        rcases beforeRead_none ha with ⟨-, hbefore⟩ | ⟨hopen, -⟩
        · rw [EStateM.Ensures, attempt_read hstate, EStateM.attempt_bind_error hbefore]
          constructor
          · rintro ⟨-, hnot⟩
            exact .unflushed h hstate ha fun hout ↦ hnot ⟨hout, ha⟩
          · intro hearly
            cases hearly with
            | unflushed _ _ _ hout => exact ⟨rfl, fun hall ↦ hout hall.1⟩
            | full _ _ hfull =>
                obtain ⟨f, hf, -⟩ := hfull
                cases ha.symm.trans hf
            | reset _ _ hlarge =>
                obtain ⟨f, hf, -⟩ := hlarge
                cases ha.symm.trans hf
            | blocked _ _ hsome =>
                rw [ha] at hsome
                cases hsome
        · exact absurd h hopen
    | some f => exact cut_read_some h hstate ha

/-! ## Calls of a connection that stays open -/

/-- What a call that writes keeps: the end of the last reply is in the output, and a connection
that is open stays so and does not say that it is closed. -/
structure Sends {α : Type} (w : WebSocket) (r : Except Error α) (w' : WebSocket) : Prop where
  replies : w.replyEnd ≤ w.output.length → w'.replyEnd ≤ w'.output.length
  opens : w.context.state.canRead = true →
    w'.context.state.canRead = true ∧ r ≠ .error .connectionClosed

/-- A call that writes. -/
def Sending {α : Type} (m : Io α) : Prop := ∀ w, m.Ensures w fun r w' ↦ Sends w r w'

theorem Sending.bind {α β : Type} {m : Io α} {next : α → Io β} (hm : Sending m)
    (hnext : ∀ a, Sending (next a)) : Sending (m >>= next) := by
  intro w
  refine (hm w).bind ?_ ?_
  · intro a w₁ hw₁
    exact (hnext a w₁).mono fun r w' hw' ↦ ⟨fun h ↦ hw'.replies (hw₁.replies h),
      fun h ↦ hw'.opens (hw₁.opens h).1⟩
  · intro e w₁ hw₁
    refine ⟨hw₁.replies, fun h ↦ ⟨(hw₁.opens h).1, ?_⟩⟩
    rintro ⟨⟩
    exact (hw₁.opens h).2 rfl

theorem Flushes.sending {α : Type} {m : Io α} (hm : Flushes m) : Sending m := by
  intro w
  refine (hm w).mono fun r w' ⟨hflushed, hended⟩ ↦ ⟨hflushed.replies, fun h ↦ ⟨?_, ?_⟩⟩
  · rw [hflushed.active h]
    exact h
  · rintro rfl
    cases hended with
    | closed hclosing => cases h.symm.trans hclosing

theorem sending_bufferFrame (f : Frame) : Sending (bufferFrame f) := by
  intro w
  refine (ensures_bufferFrame f w).mono ?_
  rintro r w' (⟨-, rfl, rfl⟩ | ⟨-, hr, hw'⟩)
  · exact ⟨id, fun h ↦ ⟨h, nofun⟩⟩
  · refine ⟨fun h ↦ ?_, fun h ↦ ⟨?_, ?_⟩⟩
    · have hbuffered := replies_buffered f w h
      rcases hw' with rfl | rfl
      · exact hbuffered
      · exact (Flushed.drained _).replies hbuffered
    · rcases hw' with rfl | rfl
      · exact h
      · exact h
    · rcases hr with rfl | ⟨-, hclosing⟩ | ⟨kind, rfl⟩
      · exact nofun
      · cases h.symm.trans hclosing
      · exact nofun

theorem sending_write (data : Option Frame) : Sending (_write data) := by
  cases data with
  | none => exact flushes_write.sending
  | some f =>
      rw [write_some]
      exact (sending_bufferFrame f).bind fun _ ↦ flushes_write.sending

theorem sending_writeFrame (f : Frame) : Sending (writeFrame f) := by
  refine (sending_write (some f)).bind fun flushNow ↦ ?_
  cases flushNow with
  | true => exact flushes_flush.sending
  | false => exact (Flushes.pure ()).sending

theorem sending_close (code : Option CloseFrame) : Sending (close code) := by
  refine fun w ↦ EStateM.Ensures.get_bind (EStateM.Ensures.ite ?_ fun _ ↦ flushes_flush.sending w)
  intro hstate
  have hwrite : Sending (_write (Frame.close code) >>= fun _ ↦ flush) :=
    (sending_write _).bind fun _ ↦ flushes_flush.sending
  refine EStateM.Ensures.set_bind ((hwrite (w.setState .closedByUs)).mono fun r w' hw' ↦ ?_)
  exact ⟨hw'.replies, fun _ ↦ hw'.opens rfl⟩

/-- **A call of `write`** keeps what a call that writes keeps. -/
theorem sending_writeMessage (message : Message) : Sending (write message) := by
  intro w
  rw [EStateM.Ensures]
  by_cases hstate : w.context.state = .active
  · rw [attempt_write_active hstate]
    cases message with
    | text data => exact sending_writeFrame _ w
    | binary buffer => exact sending_writeFrame _ w
    | ping buffer => exact sending_writeFrame _ w
    | pong buffer =>
        have hpong : Sending (setAdditional (.pong buffer) false) := by
          intro w
          rw [EStateM.Ensures, attempt_setAdditional]
          split
          · exact ⟨id, fun h ↦ ⟨h, by rintro ⟨⟩⟩⟩
          · exact ⟨id, fun h ↦ ⟨h, by rintro ⟨⟩⟩⟩
        have hrest : Sending (_write none >>= fun _ ↦ (Pure.pure () : Io Unit)) :=
          flushes_write.sending.bind fun _ ↦ (Flushes.pure ()).sending
        exact hpong.bind (fun _ ↦ hrest) w
    | close code => exact sending_close code w
    | frame f => exact sending_writeFrame f w
  · obtain ⟨e, he, hattempt⟩ := attempt_write_inactive hstate message
    rw [hattempt]
    refine ⟨id, fun h ↦ ⟨h, ?_⟩⟩
    rcases he with rfl | rfl
    · rintro ⟨⟩
    · rintro ⟨⟩

/-- **A connection that is open** does not say that it is closed when it reads. -/
theorem readLoop_open (fuel : Nat) (h : w.context.state.canRead = true) :
    (readLoop u fuel).Ensures w fun r _ ↦ r ≠ .error .connectionClosed := by
  induction fuel generalizing w with
  | zero => exact nofun
  | succ fuel ih =>
      refine ((flushes_beforeRead.sending) w).bind ?_ ?_
      · intro _ w₁ hw₁
        have h₁ := (hw₁.opens h).1
        have hattempt : (readMessageFrame u).Ensures w₁ fun r w' ↦
            (readMessageFrame u).attempt w₁ = (r, w') := rfl
        refine ((ensures_readMessageFrame w₁).and hattempt).bind ?_ ?_
        · rintro message w₂ ⟨-, hr⟩
          cases message with
          | some message => exact nofun
          | none =>
              obtain ⟨incomplete, rfl⟩ := readMessageFrame_none hr
              exact ih (w := w₁.received.setIncomplete incomplete) h₁
        · rintro e w₂ ⟨⟨f, -, -, hverdict⟩ | ⟨-, -, hr⟩ | ⟨e', he', -, hr⟩, -⟩
          · rintro ⟨⟩
            exact hverdict _ rfl
          · have hopen : ¬ (w₁.context.state = .closedByPeer ∨
                w₁.context.state = .closeAcknowledged) := by
              rintro (hstate | hstate)
              · rw [hstate] at h₁
                cases h₁
              · rw [hstate] at h₁
                cases h₁
            rw [if_neg hopen] at hr
            cases hr
            exact nofun
          · rw [if_neg fun hreset ↦ Bool.false_ne_true (hreset.1.symm.trans h₁)] at hr
            cases hr
            rintro ⟨⟩
            rcases frameRead_error he' with h | ⟨kind, ⟨⟩⟩
            exact h
      · rintro e w₁ hw₁ ⟨⟩
        exact (hw₁.opens h).2 rfl

theorem read_open (h : w.context.state.canRead = true) :
    (read u).Ensures w fun r _ ↦ r ≠ .error .connectionClosed := by
  have hstate : w.context.state ≠ .terminated := by
    intro hstate
    rw [hstate] at h
    cases h
  rw [EStateM.Ensures, attempt_read hstate]
  exact readLoop_open (u := u) w.readFuel h

/-! ## Runs -/

theorem kept_replies : Kept fun w ↦ w.replyEnd ≤ w.output.length where
  flushed := fun h hw ↦ hw.replies h
  received := fun {w} h ↦ by
    rw [output, (sameOutput_received w).outBuffer]
    exact h
  answered := fun h hw ↦ by
    rw [output, hw.codec.1, hw.codec.2.1, hw.codec.2.2]
    exact h

/-- What is returned by a call of no value. -/
theorem ensures_unit {m : Io Unit} {Q : Except Error (Option Message) → WebSocket → Prop}
    (h : m.Ensures w fun r w' ↦ Q (r.map fun _ ↦ none) w') :
    (m >>= fun _ ↦ (Pure.pure none : Io (Option Message))).Ensures w Q :=
  h.bind (fun _ _ hw ↦ hw) fun _ _ hw ↦ hw

theorem ensures_message {m : Io Message} {Q : Except Error (Option Message) → WebSocket → Prop}
    (h : m.Ensures w fun r w' ↦ Q (r.map some) w') :
    (m >>= fun message ↦ (Pure.pure (some message) : Io (Option Message))).Ensures w Q :=
  h.bind (fun _ _ hw ↦ hw) fun _ _ hw ↦ hw

/-- **A step keeps the end of the last reply in the output.** -/
theorem replies_step (h : w.replyEnd ≤ w.output.length) {a : Call × Answers}
    (hw : w.step u a = some w') : w'.replyEnd ≤ w'.output.length := by
  obtain ⟨c, answers⟩ := a
  cases hw
  have hanswered : (w.answered answers).replyEnd ≤ (w.answered answers).output.length := h
  have hsends : ∀ {m : Io Unit}, Sending m → (m >>= fun _ ↦ (Pure.pure none :
      Io (Option Message))).Ensures (w.answered answers) fun _ w' ↦
        w'.replyEnd ≤ w'.output.length := fun hm ↦
    ensures_unit ((hm _).mono fun _ _ hw ↦ hw.replies hanswered)
  have hcall : (call u c).Ensures (w.answered answers) fun _ w' ↦
      w'.replyEnd ≤ w'.output.length := by
    cases c with
    | read => exact ensures_message (kept_replies.ensures_read hanswered)
    | write message => exact hsends (sending_writeMessage message)
    | flush => exact hsends flushes_flush.sending
    | close code => exact hsends (sending_close code)
  exact hcall

/-- An outcome that says that the connection is closed, whatever it would be otherwise. -/
theorem cut_map {α β : Type} (g : α → β) (r : Except Error α) (w : WebSocket) :
    Cut (r.map g) w ↔ Cut r w := by
  refine and_congr_left fun _ ↦ ?_
  cases r with
  | ok a => exact ⟨nofun, nofun⟩
  | error e =>
      exact ⟨fun h ↦ congrArg _ (Except.error.inj h), fun h ↦ congrArg _ (Except.error.inj h)⟩

/-- A call that does not flush, in a server that is closing, cuts nothing short. -/
theorem not_endsEarly_write (message : Message) : ¬ EndsEarly w (.write message) := by
  intro hearly
  cases hearly with
  | full _ hc => cases hc
  | reset _ hc => cases hc

/-- In a connection that is not active, `close` is `flush`. -/
theorem attempt_close_inactive (h : w.context.state ≠ .active) (code : Option CloseFrame) :
    (close code).attempt w = flush.attempt w := by
  show EStateM.attempt (if w.context.state = .active then _ else flush) w = _
  rw [if_neg h]

/-- A call in a connection that is open cuts nothing short. -/
theorem cut_call_open (h : w.context.state.canRead = true) (c : Call) :
    (call u c).Ensures w fun r w' ↦ ¬ Cut r w' := by
  have hsends : ∀ {m : Io Unit}, Sending m →
      (m >>= fun _ ↦ (Pure.pure none : Io (Option Message))).Ensures w fun r w' ↦ ¬ Cut r w' := by
    intro m hm
    refine ensures_unit ((hm w).mono fun r w' hw' ↦ ?_)
    rw [cut_map]
    exact fun hcut ↦ (hw'.opens h).2 hcut.1
  cases c with
  | read =>
      refine ensures_message ((read_open (u := u) h).mono fun r w' hr ↦ ?_)
      rw [cut_map]
      exact fun hcut ↦ hr hcut.1
  | write message => exact hsends (sending_writeMessage message)
  | flush => exact hsends flushes_flush.sending
  | close code => exact hsends (sending_close code)

/-- A call that flushes, in a server that is closing. -/
theorem cut_flushCall (h : Closing w) {c : Call} (hc : FlushCall w c) (hread : c ≠ .read) :
    flush.Ensures w fun r w' ↦ Cut (r.map fun _ ↦ (none : Option Message)) w' ↔ EndsEarly w c := by
  refine (cut_flush h).mono fun r w' hw' ↦ (cut_map _ r w').trans (hw'.trans ⟨?_, ?_⟩)
  · rintro (⟨hfull, hstop⟩ | ⟨hlarge, hstop⟩)
    · exact .full h hc hfull hstop
    · exact .reset h hc hlarge hstop
  · intro hearly
    cases hearly with
    | unflushed => exact absurd rfl hread
    | full _ _ hfull hstop => exact .inl ⟨hfull, hstop⟩
    | reset _ _ hlarge hstop => exact .inr ⟨hlarge, hstop⟩
    | blocked => exact absurd rfl hread

/-- **What a call to a server cuts short.** -/
theorem cut_call (hrole : w.context.role = .server) (c : Call) :
    (call u c).Ensures w fun r w' ↦ Cut r w' ↔ EndsEarly w c := by
  by_cases hopen : w.context.state.canRead = true
  · refine (cut_call_open (u := u) hopen c).mono fun r w' hcut ↦ iff_of_false hcut ?_
    have hclosing : ¬ Closing w := fun h ↦ Bool.false_ne_true (h.2.symm.trans hopen)
    intro hearly
    cases hearly with
    | unflushed h => exact hclosing h
    | full h => exact hclosing h
    | reset h => exact hclosing h
    | blocked h => exact hclosing h
  · have hclosing : Closing w := w.closing_iff.2 ⟨hrole, hopen⟩
    have hstate : w.context.state ≠ .active := by
      intro hstate
      rw [hstate] at hopen
      exact hopen rfl
    cases c with
    | read =>
        exact ensures_message ((cut_read (u := u) hclosing).mono fun r w' hw' ↦
          (cut_map _ r w').trans hw')
    | write message =>
        obtain ⟨e, he, hattempt⟩ := attempt_write_inactive hstate message
        refine ensures_unit ?_
        rw [EStateM.Ensures, hattempt]
        refine iff_of_false ?_ (not_endsEarly_write message)
        rcases he with rfl | rfl
        · exact fun h ↦ by cases h.1
        · exact fun h ↦ by cases h.1
    | flush => exact ensures_unit (cut_flushCall hclosing .flush (by rintro ⟨⟩))
    | close code =>
        refine ensures_unit ?_
        rw [EStateM.Ensures, attempt_close_inactive hstate]
        exact cut_flushCall hclosing (.close code) (by rintro ⟨⟩)

/-- **What becomes of automatic replies**, in every state of every run.  A call of `read` offers
what is owed before anything else exactly if a frame waits in `additionalSend` and, if it is
itself an automatic reply, has room in the buffer; and a call to a server says that the
connection is closed, with something not written, exactly in the cases of `EndsEarly`. -/
theorem replies_written_iff {answers : Answers} {part : Bytes} {role : Role}
    {config : Option WebSocketConfig}
    (hnew : fromPartiallyRead (.new answers) part role config = .ok w₀)
    (h : Reach (step u) (fun _ _ ↦ True) w₀ w) (answers' : Answers) :
    (w.context.state ≠ .terminated → 0 < (w.answered answers').owed →
      (OffersFirst (w.answered answers').owed (w.perform u (.read, answers')).2 ↔
        ∃ f, w.context.additionalSend = some f ∧
          (w.automatic → (w.answered answers').Fits f))) ∧
      ∀ c, w.context.role = .server →
        ((w.perform u (c, answers')).1 = .error .connectionClosed ∧
            ¬ (w.perform u (c, answers')).2.AllWritten ↔
          (w.answered answers').EndsEarly c) := by
  have hreplies : w.replyEnd ≤ w.output.length := by
    refine h.invariant (P := fun w ↦ w.replyEnd ≤ w.output.length) ?_
      fun hw _ hs ↦ replies_step hw hs
    obtain ⟨frame, -, rfl⟩ := fromPartiallyRead_ok hnew
    exact Nat.zero_le _
  refine ⟨fun hstate howed ↦ ?_, fun c hrole ↦ ?_⟩
  · have hread := offersFirst_iff (u := u) (w := w.answered answers') rfl hstate hreplies howed
    exact (ensures_message (Q := fun _ w' ↦ OffersFirst (w.answered answers').owed w' ↔
      ∃ f, w.context.additionalSend = some f ∧ (w.automatic → (w.answered answers').Fits f)) hread)
  · exact cut_call (u := u) (w := w.answered answers') hrole c

/-- A server that has read a Close frame. -/
def closedByPeer (u : Utf8Crate) : WebSocket :=
  ((fresh .server ⟨[], [], [], []⟩).perform u
    (.read, ⟨[.ok [0x88, 0x82, 0, 0, 0, 0, 0x03, 0xE8]], [], [], []⟩)).2

/-- The first `read` after a Close frame offers the whole reply. -/
theorem replies_written_iff_closedByPeer :
    OffersFirst 4
      ((closedByPeer .reference).perform .reference (.read, ⟨[], [.ok 1], [], []⟩)).2 := by
  have hnew : fromPartiallyRead (.new ⟨[], [], [], []⟩) [] .server none =
      .ok (fresh .server ⟨[], [], [], []⟩) := rfl
  have hreach : Reach (step .reference) (fun _ _ ↦ True) (fresh .server ⟨[], [], [], []⟩)
      (closedByPeer .reference) := .tail .refl trivial rfl
  have hreads := (replies_written_iff hnew hreach ⟨[], [.ok 1], [], []⟩).1 nofun (by decide)
  exact hreads.2 ⟨_, rfl, fun _ ↦ by decide⟩

/-- A server whose reply to a Close frame has been taken by the stream in part. -/
def halfWritten (u : Utf8Crate) : WebSocket :=
  ((closedByPeer u).perform u (.read, ⟨[], [.ok 1], [], []⟩)).2

/-- **A reply of which a part is written is forgotten**: the next `read` offers nothing, although
the stream would take it all, and says that the connection is closed. -/
theorem halfWritten_forgotten :
    Reach (step .reference) (fun _ _ ↦ True) (fresh .server ⟨[], [], [], []⟩)
        (halfWritten .reference) ∧
      (halfWritten .reference).context.state ≠ .terminated ∧
      ((halfWritten .reference).answered ⟨[], [.ok 3], [], []⟩).owed = 3 ∧
      ((halfWritten .reference).perform .reference (.read, ⟨[], [.ok 3], [], []⟩)).1 =
        .error .connectionClosed ∧
      ((halfWritten .reference).perform .reference
        (.read, ⟨[], [.ok 3], [], []⟩)).2.socket.ops = [] ∧
      ¬ ((halfWritten .reference).perform .reference (.read, ⟨[], [.ok 3], [], []⟩)).2.AllWritten :=
  ⟨.tail (.tail .refl trivial rfl) trivial rfl, nofun, rfl, rfl, rfl, fun h ↦ nomatch h.1⟩

end WebSocket

end Ws

end MessageIo
