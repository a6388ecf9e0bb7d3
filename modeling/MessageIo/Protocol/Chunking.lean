import MessageIo.Protocol.Reading

/-!
# How a stream is cut does not matter

`read_frame` goes on where it has stopped: the header may have been parsed in one call and the
payload become whole many calls later.  `parseAll` parses a stream at one go.  What repeated calls
hand over are the pieces of the stream that `parseAll` finds (`chunking`), however the stream is
cut into reads, for any bytes.

A piece is a frame, or a header with an opcode that has no meaning; a call that fails for such a
header has used it up.  A frame that is too long is the end: its header stays in the codec, and
every call from there on fails.
-/

namespace MessageIo

namespace Ws

/-! ## A stream at one go -/

/-- A piece of a stream: its bytes, and what they are. -/
structure Piece where
  bytes : Bytes
  result : Except Error Frame

/-- What there is in a stream: pieces, and behind them a frame that is too long, a header with too
little behind it, or too little for a header. -/
structure Parsed where
  pieces : List Piece
  tooLong : Option Error
  /-- A header that is no part of a piece. -/
  header : Option (FrameHeader × Nat)
  /-- What stands behind it. -/
  rest : Bytes

namespace Parsed

/-- A piece in front. -/
def cons (p : Piece) (q : Parsed) : Parsed := { q with pieces := p :: q.pieces }

/-- All that is handed over. -/
def events (q : Parsed) : List (Except Error Frame) :=
  q.pieces.map Piece.result ++ q.tooLong.toList.map .error

@[simp] theorem events_cons (p : Piece) (q : Parsed) :
    (cons p q).events = p.result :: q.events := rfl

end Parsed

/-- **A stream parsed at one go.** -/
def parseAll (maxSize : Nat) (buf : Bytes) : Parsed :=
  match _h : FrameHeader.parse buf with
  | (.ok none, rest) => ⟨[], none, none, rest⟩
  | (.error e, rest) =>
      (parseAll maxSize rest).cons ⟨buf.take (buf.length - rest.length), .error e⟩
  | (.ok (some (header, length)), rest) =>
      if maxSize < length then
        ⟨[], some (.messageTooLong length maxSize), some (header, length), rest⟩
      else if length ≤ rest.length then
        (parseAll maxSize (rest.drop length)).cons
          ⟨buf.take (buf.length - (rest.length - length)), .ok ⟨header, rest.take length⟩⟩
      else ⟨[], none, some (header, length), rest⟩
termination_by buf.length
decreasing_by
  · rcases FrameHeader.parse_le buf with hnone | hle
    · cases hnone.symm.trans _h
    · rw [_h] at hle
      exact Nat.lt_of_succ_lt hle
  · rcases FrameHeader.parse_le buf with hnone | hle
    · cases hnone.symm.trans _h
    · rw [_h] at hle
      rw [List.length_drop]
      exact Nat.lt_of_le_of_lt (Nat.sub_le _ _) (Nat.lt_of_succ_lt hle)

section ParseAll

variable {maxSize : Nat} {buf head more : Bytes} {header : FrameHeader} {length : Nat} {e : Error}

theorem parseAll_none (h : FrameHeader.parse buf = (.ok none, buf)) :
    parseAll maxSize buf = ⟨[], none, none, buf⟩ := by
  rw [parseAll]
  split
  · rename_i heq
    cases h.symm.trans heq
    rfl
  · rename_i heq
    cases h.symm.trans heq
  · rename_i heq
    cases h.symm.trans heq

theorem parseAll_error (h : FrameHeader.parse (head ++ more) = (.error e, more)) :
    parseAll maxSize (head ++ more) = (parseAll maxSize more).cons ⟨head, .error e⟩ := by
  rw [parseAll]
  split
  · rename_i heq
    cases h.symm.trans heq
  · rename_i heq
    cases h.symm.trans heq
    rw [List.length_append, Nat.add_sub_cancel, List.take_left]
  · rename_i heq
    cases h.symm.trans heq

/-- Behind a header, its payload decides. -/
theorem parseAll_header
    (h : FrameHeader.parse (head ++ more) = (.ok (some (header, length)), more)) :
    parseAll maxSize (head ++ more) =
      if maxSize < length then
        ⟨[], some (.messageTooLong length maxSize), some (header, length), more⟩
      else if length ≤ more.length then
        (parseAll maxSize (more.drop length)).cons
          ⟨head ++ more.take length, .ok ⟨header, more.take length⟩⟩
      else ⟨[], none, some (header, length), more⟩ := by
  rw [parseAll]
  split
  · rename_i heq
    cases h.symm.trans heq
  · rename_i heq
    cases h.symm.trans heq
  · rename_i heq
    cases h.symm.trans heq
    split
    · rfl
    · split
      · rename_i hle
        have hlength : (head ++ more).length - (more.length - length) = head.length + length := by
          rw [List.length_append]
          omega
        rw [hlength, List.take_append, List.take_of_length_le (Nat.le_add_right _ _),
          Nat.add_sub_cancel_left]
      · rfl

end ParseAll

/-- **A whole piece**: in front of any bytes it is the first piece. -/
def Piece.Whole (maxSize : Nat) (p : Piece) : Prop :=
  ∀ more, parseAll maxSize (p.bytes ++ more) = (parseAll maxSize more).cons p

/-- A whole piece is not empty. -/
theorem Piece.Whole.length_pos {maxSize : Nat} {p : Piece} (h : p.Whole maxSize) :
    0 < p.bytes.length := by
  rcases hp : p.bytes with _ | ⟨b, bytes⟩
  · have hpieces := congrArg (fun q ↦ q.pieces.length) (h [])
    rw [hp, List.nil_append, Parsed.cons, List.length_cons] at hpieces
    omega
  · exact Nat.succ_pos _

/-- The bytes of a header that has been taken from the stream. -/
inductive Taken : Option (FrameHeader × Nat) → Bytes → Prop
  | none : Taken none []
  | some {header : FrameHeader × Nat} {head : Bytes}
      (h : ∀ more, FrameHeader.parse (head ++ more) = (.ok (some header), more)) :
      Taken (some header) head

/-- A header and its payload are a piece. -/
theorem whole_frame {maxSize length : Nat} {header : FrameHeader} {head payload : Bytes}
    (ht : Taken (some (header, length)) head) (hpayload : payload.length = length)
    (hle : length ≤ maxSize) : Piece.Whole maxSize ⟨head ++ payload, .ok ⟨header, payload⟩⟩ := by
  intro more
  cases ht with
  | some h =>
      have hthere : length ≤ (payload ++ more).length := by
        rw [List.length_append]
        omega
      rw [List.append_assoc, parseAll_header (h _), if_neg (Nat.not_lt.2 hle), if_pos hthere,
        List.take_left' hpayload, List.drop_left' hpayload]

/-- A header whose opcode has no meaning is a piece. -/
theorem whole_error {maxSize : Nat} {head : Bytes} {e : Error}
    (h : ∀ more, FrameHeader.parse (head ++ more) = (.error e, more)) :
    Piece.Whole maxSize ⟨head, .error e⟩ := fun more ↦ parseAll_error (h more)

/-! ## One call -/

namespace FrameCodec

variable {maxSize : Nat} {c c' : FrameCodec} {head more : Bytes}

/-- **What a call does with the bytes that are not used yet**, `more` being those that the codec
does not have: it uses up a piece, it finds that the next one is too long, or it waits. -/
inductive Turn (maxSize : Nat) (c : FrameCodec) (more : Bytes) :
    Bytes → Except Error (Option Frame) → Prop
  | frame {p : Piece} {f : Frame} (hp : p.Whole maxSize) (hf : p.result = .ok f)
      (hc : c.header = none) : Turn maxSize c more (p.bytes ++ (c.inBuffer ++ more)) (.ok (some f))
  | opcode {p : Piece} {i : UInt8} (hp : p.Whole maxSize)
      (hi : p.result = .error (.protocol (.invalidOpcode i))) (hc : c.header = none) :
      Turn maxSize c more (p.bytes ++ (c.inBuffer ++ more)) (.error (.protocol (.invalidOpcode i)))
  | tooLong {header : FrameHeader} {length : Nat} {head : Bytes}
      (ht : Taken (some (header, length)) head) (hc : c.header = some (header, length))
      (hlong : maxSize < length) :
      Turn maxSize c more (head ++ (c.inBuffer ++ more)) (.error (.messageTooLong length maxSize))
  | waits {head : Bytes} {r : Except Error (Option Frame)} (ht : Taken c.header head)
      (hidle : parseAll maxSize (head ++ c.inBuffer) = ⟨[], none, c.header, c.inBuffer⟩)
      (hr : r = .ok none ∨ ∃ kind, r = .error (.io kind)) :
      Turn maxSize c more (head ++ (c.inBuffer ++ more)) r

/-- If the header is there, its payload decides. -/
theorem turn_payload {header : FrameHeader} {length : Nat}
    (h : c.nextHeader = (.ok (some (header, length)), c')) (hc : c'.header = some (header, length))
    (ht : Taken (some (header, length)) head) (more : Bytes) :
    Turn maxSize (c.nextFrame maxSize).2 more (head ++ (c'.inBuffer ++ more))
      (c.nextFrame maxSize).1 := by
  rw [nextFrame, h]
  simp only
  split
  · rename_i hlong
    exact .tooLong ht hc hlong
  · rename_i hle
    split
    · rename_i hthere
      have hpiece := whole_frame ht (List.length_take_of_le hthere) (Nat.not_lt.1 hle)
      have hbytes : head ++ (c'.inBuffer ++ more) = head ++ c'.inBuffer.take length ++
          (c'.inBuffer.drop length ++ more) := by
        rw [List.append_assoc, ← List.append_assoc (c'.inBuffer.take length),
          List.take_append_drop]
      rw [hbytes]
      exact .frame hpiece rfl rfl
    · rename_i hshort
      refine .waits (hc ▸ ht) ?_ (.inl rfl)
      cases ht with
      | some hparse => rw [parseAll_header (hparse _), if_neg hle, if_neg hshort, hc]

/-- **What `nextFrame` does** with the bytes that are not used yet. -/
theorem turn_nextFrame (ht : Taken c.header head) (more : Bytes) :
    Turn maxSize (c.nextFrame maxSize).2 more (head ++ (c.inBuffer ++ more))
      (c.nextFrame maxSize).1 := by
  cases hheader : c.header with
  | some header =>
      rw [hheader] at ht
      exact turn_payload (nextHeader_some hheader) hheader ht more
  | none =>
      rw [hheader] at ht
      cases ht
      cases hparse : FrameHeader.parse c.inBuffer with
      | mk r rest =>
          have hnext := nextHeader_none hheader
          rw [hparse] at hnext
          by_cases hnone : r = .ok none
          · rw [hnone] at hparse hnext
            obtain rfl := FrameHeader.parse_none hparse
            rw [nextFrame, hnext]
            exact .waits .none (parseAll_none hparse) (.inl rfl)
          · obtain ⟨front, hfront, hmore⟩ := FrameHeader.parse_front hparse hnone
            have hbytes : [] ++ (c.inBuffer ++ more) = front ++ (rest ++ more) := by
              rw [hfront, List.nil_append, List.append_assoc]
            rw [hbytes]
            rcases r with e | _ | header
            · obtain ⟨i, rfl⟩ := FrameHeader.parse_error (congrArg Prod.fst hparse)
              rw [nextFrame, hnext]
              exact .opcode (whole_error hmore) rfl hheader
            · exact absurd rfl hnone
            · exact turn_payload hnext rfl (.some hmore) more

/-- Where the codec waits, any other reason to wait will do. -/
theorem Turn.waiting {bytes : Bytes} (h : Turn maxSize c more bytes (.ok none)) :
    ∃ head, Taken c.header head ∧ bytes = head ++ (c.inBuffer ++ more) ∧
      ∀ {r}, (r = .ok none ∨ ∃ kind, r = .error (.io kind)) → Turn maxSize c more bytes r := by
  cases h with
  | waits ht hidle _ => exact ⟨_, ht, rfl, .waits ht hidle⟩

/-- The bytes that reads give. -/
def given (reads : List ReadCall) : Bytes :=
  reads.flatMap fun
    | .ok data => data
    | .err _ => []

/-- A result that says to wait. -/
def Waits (r : Except Error (Option Frame)) : Prop := r = .ok none ∨ ∃ kind, r = .error (.io kind)

/-- **What `read_frame` does** with the bytes that are not used yet: it takes a turn, and if it has
to wait it has used a read, or there are none. -/
theorem turn_readLoop (maxSize : Nat) (ht : Taken c.header head) (reads : List ReadCall) :
    Turn maxSize (c.readLoop maxSize reads).codec (given (c.readLoop maxSize reads).reads)
        (head ++ (c.inBuffer ++ given reads)) (c.readLoop maxSize reads).result ∧
      (c.readLoop maxSize reads).reads.length ≤ reads.length ∧
      (Waits (c.readLoop maxSize reads).result →
        reads = [] ∨ (c.readLoop maxSize reads).reads.length < reads.length) := by
  -- A read that does not complete the next piece moves to the buffer of input.
  revert head
  refine readLoop_cases (P := fun c reads out ↦ ∀ {head}, Taken c.header head →
    Turn maxSize out.codec (given out.reads) (head ++ (c.inBuffer ++ given reads)) out.result ∧
      out.reads.length ≤ reads.length ∧
      (Waits out.result → reads = [] ∨ out.reads.length < reads.length)) ?_ ?_ ?_ ?_ ?_ c reads
  · intro c c' r reads hnext hr head ht
    have hturn := @turn_nextFrame maxSize _ _ ht (given reads)
    rw [hnext] at hturn
    refine ⟨hturn, Nat.le_refl _, ?_⟩
    rintro (hnone | ⟨kind, hio⟩)
    · exact absurd hnone hr
    · have hio' : r = .error (.io kind) := hio
      rw [hio'] at hnext
      exact absurd hnext nextFrame_ne_io
  · intro c c' hnext head ht
    have hturn := @turn_nextFrame maxSize _ _ ht []
    rw [hnext] at hturn
    obtain ⟨-, -, -, hwaits⟩ := hturn.waiting
    exact ⟨hwaits (.inr ⟨_, rfl⟩), Nat.le_refl 0, fun _ ↦ .inl rfl⟩
  · intro c c' kind reads hnext head ht
    have hturn := @turn_nextFrame maxSize _ _ ht (given reads)
    rw [hnext] at hturn
    obtain ⟨-, -, -, hwaits⟩ := hturn.waiting
    exact ⟨hwaits (.inr ⟨_, rfl⟩), Nat.le_succ _, fun _ ↦ .inr (Nat.lt_succ_self _)⟩
  · intro c c' reads hnext head ht
    have hturn := @turn_nextFrame maxSize _ _ ht (given reads)
    rw [hnext] at hturn
    obtain ⟨-, -, -, hwaits⟩ := hturn.waiting
    exact ⟨hwaits (.inl rfl), Nat.le_succ _, fun _ ↦ .inr (Nat.lt_succ_self _)⟩
  · intro c c' data reads out hnext hdata ih head ht
    have hturn := @turn_nextFrame maxSize _ _ ht (data ++ given reads)
    rw [hnext] at hturn
    obtain ⟨head', ht', hbytes, -⟩ := hturn.waiting
    have hgiven : given (.ok data :: reads) = data ++ given reads := rfl
    have hfed : c'.inBuffer ++ (data ++ given reads) = (c'.fed data).inBuffer ++ given reads :=
      (List.append_assoc _ _ _).symm
    obtain ⟨hout, hle, hless⟩ := ih ht'
    rw [hgiven, hbytes, hfed]
    refine ⟨hout, hle.trans (Nat.le_succ _), fun hwaits ↦ .inr ?_⟩
    exact Nat.lt_succ_of_le hle

end FrameCodec

/-! ## Repeated calls -/

namespace FrameSocket

open FrameCodec (given)

/-- `read_frame` is called so often: what is handed over, and what the codec and its stream are
then.  A call that would block, or finds the stream at an end, hands over nothing.  Behind a frame
that is too long every call ends in the same error. -/
def readFrames (maxSize : Option Nat) : Nat → FrameSocket → List (Except Error Frame) × FrameSocket
  | 0, s => ([], s)
  | n + 1, s =>
      match (readFrame maxSize).attempt s with
      | (.ok (some f), s) => (.ok f :: (readFrames maxSize n s).1, (readFrames maxSize n s).2)
      | (.ok none, s) => readFrames maxSize n s
      | (.error (.io _), s) => readFrames maxSize n s
      | (.error (.messageTooLong size maxSize), s) => ([.error (.messageTooLong size maxSize)], s)
      | (.error e, s) => (.error e :: (readFrames maxSize n s).1, (readFrames maxSize n s).2)

/-- The bytes that have not been used: those in the buffer and those still to be given. -/
def unused (s : FrameSocket) : Bytes := s.codec.inBuffer ++ given s.socket.answers.reads

variable {maxSize : Option Nat} {s : FrameSocket} {head : Bytes}

/-- What is too long. -/
abbrev limit (maxSize : Option Nat) : Nat := maxSize.getD usizeMax

/-- **One more call**: a piece is used up, the next one is too long, or the call has waited. -/
inductive Step (maxSize : Option Nat) (n : Nat) (s : FrameSocket) (bytes : Bytes) : Prop
  | piece {p : Piece} (hp : p.Whole (limit maxSize))
      (hbytes : bytes = p.bytes ++ (s.received maxSize).unused)
      (hheader : (s.received maxSize).codec.header = none)
      (hreads : (s.received maxSize).socket.answers.reads.length ≤
        s.socket.answers.reads.length)
      (heq : readFrames maxSize (n + 1) s =
        (p.result :: (readFrames maxSize n (s.received maxSize)).1,
          (readFrames maxSize n (s.received maxSize)).2))
  | tooLong {header : FrameHeader} {length : Nat} {head : Bytes}
      (ht : Taken (some (header, length)) head)
      (hheader : (s.received maxSize).codec.header = some (header, length))
      (hlong : limit maxSize < length) (hbytes : bytes = head ++ (s.received maxSize).unused)
      (heq : readFrames maxSize (n + 1) s =
        ([.error (.messageTooLong length (limit maxSize))], s.received maxSize))
  | waits {head : Bytes} (ht : Taken (s.received maxSize).codec.header head)
      (hidle : parseAll (limit maxSize) (head ++ (s.received maxSize).codec.inBuffer) =
        ⟨[], none, (s.received maxSize).codec.header, (s.received maxSize).codec.inBuffer⟩)
      (hbytes : bytes = head ++ (s.received maxSize).unused)
      (hreads : (s.received maxSize).socket.answers.reads.length ≤ s.socket.answers.reads.length)
      (hless : s.socket.answers.reads = [] ∨
        (s.received maxSize).socket.answers.reads.length < s.socket.answers.reads.length)
      (heq : readFrames maxSize (n + 1) s = readFrames maxSize n (s.received maxSize))

theorem step_readFrames (maxSize : Option Nat) (ht : Taken s.codec.header head) (n : Nat) :
    Step maxSize n s (head ++ s.unused) := by
  obtain ⟨hturn, hle, hless⟩ := FrameCodec.turn_readLoop (limit maxSize) ht s.socket.answers.reads
  have hframes : readFrames maxSize (n + 1) s = _ := readFrames.eq_2 maxSize s n
  rw [attempt_readFrame] at hframes
  change FrameCodec.Turn _ (s.received maxSize).codec _ (head ++ s.unused)
    (s.frameRead maxSize).result at hturn
  change FrameCodec.Waits (s.frameRead maxSize).result → _ at hless
  generalize hbytes : head ++ s.unused = bytes at hturn ⊢
  generalize (s.frameRead maxSize).result = r at hturn hless hframes
  cases hturn with
  | @frame p f hp hf hc => exact .piece hp rfl hc hle (by rw [hf]; exact hframes)
  | @opcode p i hp hi hc => exact .piece hp rfl hc hle (by rw [hi]; exact hframes)
  | tooLong ht hc hlong => exact .tooLong ht hc hlong rfl hframes
  | waits ht hidle hr =>
      refine .waits ht hidle rfl hle (hless hr) ?_
      rcases hr with rfl | ⟨kind, rfl⟩
      · exact hframes
      · exact hframes

/-- **What has been handed over so far**: the first pieces of the bytes, and perhaps that what
comes behind them is too long. -/
structure Handed (maxSize : Option Nat) (bytes : Bytes)
    (out : List (Except Error Frame) × FrameSocket) (ps : List Piece) (head : Bytes) : Prop where
  conserved : bytes = ps.flatMap Piece.bytes ++ (head ++ out.2.unused)
  header : Taken out.2.codec.header head
  pieces : ps <+: (parseAll (limit maxSize) bytes).pieces
  events : out.1 = ps.map Piece.result ∨ out.1 = (parseAll (limit maxSize) bytes).events

/-- **All has been handed over.** -/
structure Ended (maxSize : Option Nat) (bytes : Bytes)
    (out : List (Except Error Frame) × FrameSocket) : Prop where
  events : out.1 = (parseAll (limit maxSize) bytes).events
  header : out.2.codec.header = (parseAll (limit maxSize) bytes).header
  unused : out.2.unused = (parseAll (limit maxSize) bytes).rest
  buffer : (parseAll (limit maxSize) bytes).tooLong = none →
    out.2.codec.inBuffer = (parseAll (limit maxSize) bytes).rest

/-- A frame that is too long is found by parsing. -/
theorem parseAll_tooLong {header : FrameHeader} {length : Nat}
    (ht : Taken (some (header, length)) head) (hlong : limit maxSize < length) (more : Bytes) :
    parseAll (limit maxSize) (head ++ more) =
      ⟨[], some (.messageTooLong length (limit maxSize)), some (header, length), more⟩ := by
  cases ht with
  | some hparse => rw [parseAll_header (hparse more), if_pos hlong]

/-- **At any time**, the first pieces have been handed over. -/
theorem handed_readFrames (maxSize : Option Nat) (ht : Taken s.codec.header head) (n : Nat) :
    ∃ ps head', Handed maxSize (head ++ s.unused) (s.readFrames maxSize n) ps head' := by
  induction n generalizing s head with
  | zero => exact ⟨[], head, rfl, ht, List.nil_prefix, .inl rfl⟩
  | succ n ih =>
      cases step_readFrames maxSize ht n with
      | @piece p hp hbytes hheader hreads heq =>
          have hnone : Taken (s.received maxSize).codec.header [] := by
            rw [hheader]
            exact .none
          obtain ⟨ps, head', hout⟩ := ih hnone
          rw [hbytes, heq]
          refine ⟨p :: ps, head', ?_, hout.header, ?_, ?_⟩
          · rw [List.flatMap_cons, List.append_assoc, ← hout.conserved]
            rfl
          · rw [hp]
            exact List.cons_prefix_cons.2 ⟨rfl, hout.pieces⟩
          · rw [hp, Parsed.events_cons, List.map_cons]
            rcases hout.events with hevents | hevents
            · exact .inl (congrArg _ hevents)
            · exact .inr (congrArg _ hevents)
      | tooLong ht' hheader hlong hbytes heq =>
          rw [hbytes, heq]
          refine ⟨[], _, rfl, hheader ▸ ht', List.nil_prefix, .inr ?_⟩
          rw [parseAll_tooLong ht' hlong]
          rfl
      | waits ht' hidle hbytes hreads hless heq =>
          rw [hbytes, heq]
          exact ih ht'

/-- Where there is nothing to read, further calls wait. -/
theorem ended_idle (ht : Taken s.codec.header head) (hreads : s.socket.answers.reads = [])
    (hidle : parseAll (limit maxSize) (head ++ s.codec.inBuffer) =
      ⟨[], none, s.codec.header, s.codec.inBuffer⟩) (n : Nat) :
    Ended maxSize (head ++ s.unused) (s.readFrames maxSize n) := by
  have hunused : ∀ s : FrameSocket, s.socket.answers.reads = [] → s.unused = s.codec.inBuffer := by
    intro s hs
    rw [unused, hs]
    exact List.append_nil _
  induction n generalizing s head with
  | zero =>
      rw [hunused s hreads]
      refine ⟨?_, ?_, ?_, ?_⟩
      · rw [hidle]
        rfl
      · rw [hidle]
        rfl
      · rw [hidle]
        exact hunused s hreads
      · rw [hidle]
        exact fun _ ↦ rfl
  | succ n ih =>
      rw [← hunused s hreads] at hidle
      cases step_readFrames maxSize ht n with
      | piece hp hbytes _ _ _ =>
          rw [hbytes, hp] at hidle
          cases congrArg Parsed.pieces hidle
      | tooLong ht' _ hlong hbytes _ =>
          rw [hbytes, parseAll_tooLong ht' hlong] at hidle
          cases congrArg Parsed.tooLong hidle
      | waits ht' hidle' hbytes hreads' _ heq =>
          rw [hreads] at hreads'
          rw [hbytes, heq]
          exact ih ht' (List.length_eq_zero_iff.1 (Nat.le_zero.1 hreads')) hidle'

/-- **After enough calls**, all has been handed over. -/
theorem ended_readFrames (maxSize : Option Nat) (ht : Taken s.codec.header head) {n : Nat}
    (hn : (head ++ s.unused).length + s.socket.answers.reads.length < n) :
    Ended maxSize (head ++ s.unused) (s.readFrames maxSize n) := by
  induction n generalizing s head with
  | zero => cases hn
  | succ n ih =>
      cases step_readFrames maxSize ht n with
      | piece hp hbytes hheader hreads heq =>
          have hpos := hp.length_pos
          rw [hbytes, List.length_append] at hn
          have hnone : Taken (s.received maxSize).codec.header [] := by
            rw [hheader]
            exact .none
          have hout := ih hnone (by rw [List.nil_append]; omega)
          rw [hbytes, heq]
          refine ⟨?_, ?_, ?_, ?_⟩
          · rw [hp, Parsed.events_cons]
            exact congrArg _ hout.events
          · rw [hp]
            exact hout.header
          · rw [hp]
            exact hout.unused
          · rw [hp]
            exact hout.buffer
      | tooLong ht' hheader hlong hbytes heq =>
          rw [hbytes, heq]
          refine ⟨?_, ?_, ?_, ?_⟩
          · rw [parseAll_tooLong ht' hlong]
            rfl
          · rw [parseAll_tooLong ht' hlong]
            exact hheader
          · rw [parseAll_tooLong ht' hlong]
          · rw [parseAll_tooLong ht' hlong]
            exact nofun
      | waits ht' hidle hbytes hreads hless heq =>
          rcases hless with hnil | hless
          · rw [hnil] at hreads
            rw [hbytes, heq]
            exact ended_idle ht' (List.length_eq_zero_iff.1 (Nat.le_zero.1 hreads)) hidle n
          · rw [hbytes] at hn ⊢
            rw [heq]
            exact ih ht' (by omega)

/-- A codec on a stream of which a part has been read. -/
def ofPart (part : Bytes) (answers : Answers) : FrameSocket :=
  ⟨.new answers, .fromPartiallyRead part⟩

/-- **How a stream is cut into reads does not matter.**

At any time, what has been handed over are the first pieces that parsing the stream at one go
finds; their bytes, those of a pending header, those in the buffer and those that are still to be
given are the stream.  After enough calls all has been handed over, and the header and the bytes
that are left are those that parsing leaves.  So it is the same for every way to deliver the
stream. -/
theorem chunking (maxSize : Option Nat) (part : Bytes) (answers : Answers) :
    let stream := part ++ given answers.reads
    let whole := parseAll (limit maxSize) stream
    (∀ n, ∃ ps head, Handed maxSize stream ((ofPart part answers).readFrames maxSize n) ps head) ∧
      ∀ n, stream.length + answers.reads.length < n →
        let out := (ofPart part answers).readFrames maxSize n
        out.1 = whole.events ∧ out.2.codec.header = whole.header ∧
          out.2.codec.inBuffer ++ given out.2.socket.answers.reads = whole.rest ∧
          (whole.tooLong = none → out.2.codec.inBuffer = whole.rest) ∧
          ∀ part' answers' n', part' ++ given answers'.reads = stream →
            stream.length + answers'.reads.length < n' →
              let out' := (ofPart part' answers').readFrames maxSize n'
              out'.1 = out.1 ∧ out'.2.codec.header = out.2.codec.header ∧
                out'.2.unused = out.2.unused := by
  intro stream whole
  refine ⟨fun n ↦ ?_, fun n hn ↦ ?_⟩
  · exact @handed_readFrames (ofPart part answers) [] maxSize .none n
  · have hended := @ended_readFrames (ofPart part answers) [] maxSize .none n hn
    refine ⟨hended.events, hended.header, hended.unused, hended.buffer, ?_⟩
    intro part' answers' n' hsame hn'
    have hunused : (ofPart part' answers').unused = stream := hsame
    have hended' := @ended_readFrames (ofPart part' answers') [] maxSize .none n'
      (by rw [hunused]; exact hn')
    rw [hunused] at hended'
    exact ⟨hended'.events.trans hended.events.symm, hended'.header.trans hended.header.symm,
      hended'.unused.trans hended.unused.symm⟩

end FrameSocket

end Ws

end MessageIo
