import MessageIo.Protocol.Replies

/-!
# Packets under the codec

The codec of the source reads its buffer of input through a cursor: a packet has a position, a
header is parsed from there on, and the position is put back if the header is not whole.  A
subtraction of positions can go below zero and an `expect` can fail, so that what is done here
ends in a `Halt` where the source would panic.

`FrameCodec` keeps only the bytes behind the cursor.  `Decoder.readLoop_view` says that this is
all that matters: a `Decoder` whose cursor stands in its packet returns what the codec with the
unread bytes returns, and its cursor stays in the packet.
-/

namespace MessageIo

namespace Ws

/-- A condition that the source asserts, or relies on. -/
def require (c : Prop) [Decidable c] (p : Panic) : Except Error Unit :=
  if c then .ok () else .error (.halt (.panic p))

/-- A subtraction of machine integers, which must not go below zero. -/
def checkedSub (a b : Nat) : Except Error Nat := (require (b ≤ a) .assertion).map fun () ↦ a - b

theorem checkedSub_of_le {a b : Nat} (h : b ≤ a) : checkedSub a b = .ok (a - b) := by
  rw [checkedSub, require, if_pos h]
  rfl

/-! ## Packets -/

/-- A packet, with the position of its cursor. -/
structure Packet where
  bytes : Bytes
  position : Nat
deriving DecidableEq, Repr

namespace Packet

/-- A packet that is not read yet. -/
def ofBytes (bytes : Bytes) : Packet := ⟨bytes, 0⟩

/-- The bytes behind the cursor. -/
def unread (p : Packet) : Bytes := p.bytes.drop p.position

/-- The cursor stands in the packet. -/
def Valid (p : Packet) : Prop := p.position ≤ p.bytes.length

/-- The cursor goes on by so many bytes. -/
def advance (k : Nat) (p : Packet) : Packet := { p with position := p.position + k }

/-- Code that reads a packet. -/
abbrev Io (α : Type) := EStateM Error Packet α

/-- `Cursor::read`, into a buffer of `n` bytes. -/
def read (n : Nat) : Io Bytes := do
  let p ← get
  set (p.advance (p.unread.take n).length)
  return p.unread.take n

/-- `read_uint`: a number of `n` bytes.  If there are fewer, the cursor goes to the end. -/
def readUint (n : Nat) : Io (Option Nat) := do
  let p ← get
  let data ← read n
  if n ≤ p.unread.length then return some (BigEndian.decode data) else return none

/-- The length behind the length byte, which has it itself if it is small. -/
def readLength (lengthByte : UInt8) : Io (Option Nat) :=
  let lengthLength := (LengthFormat.forByte lengthByte).extraBytes
  if 0 < lengthLength then readUint lengthLength else return some lengthByte.toNat

/-- The mask, if the header is to have one. -/
def readMask (masked : Bool) : Io (Option (Option Mask)) := do
  if masked then
    match ← read 4 with
    | [a, b, c, d] => return some (some ⟨a, b, c, d⟩)
    | _ => return none
  else return some none

/-- The part of `parse_internal` behind the first two bytes. -/
def parseRest (first second : UInt8) : Io (Option (FrameHeader × Nat)) := do
  let opcode ← EStateM.ofExcept ((OpCode.ofByte (first &&& 0x0F)).mapError .halt)
  match ← readLength (second &&& 0x7F) with
  | none => return none
  | some length =>
      match ← readMask (second &&& 0x80 ≠ 0) with
      | none => return none
      | some mask =>
          EStateM.ofExcept (FrameHeader.checkOpcode first opcode)
          return some (⟨first &&& 0x80 ≠ 0, first &&& 0x40 ≠ 0, first &&& 0x20 ≠ 0,
            first &&& 0x10 ≠ 0, opcode, mask⟩, length)

/-- Internal parse engine. -/
def parseInternal : Io (Option (FrameHeader × Nat)) := do
  match ← read 2 with
  | [first, second] => parseRest first second
  | _ => return none

/-- Parse a header from an input stream.  With too little of it, the cursor goes back. -/
def parse : Io (Option (FrameHeader × Nat)) := do
  let initial ← get
  match ← parseInternal with
  | none =>
      modify fun p ↦ { p with position := initial.position }
      return none
  | some header => return some header

/-! ## Where the cursor stands -/

variable {p : Packet}

theorem length_unread (p : Packet) : p.unread.length = p.bytes.length - p.position :=
  List.length_drop

theorem unread_advance (k : Nat) (p : Packet) : (p.advance k).unread = p.unread.drop k := by
  rw [unread, unread, List.drop_drop]
  rfl

theorem Valid.advance (h : p.Valid) {k : Nat} (hk : k ≤ p.unread.length) : (p.advance k).Valid := by
  rw [length_unread] at hk
  show p.position + k ≤ p.bytes.length
  rw [Valid] at h
  omega

/-- `q` has what `p` has behind `rest`, which is the end of what `p` has not read. -/
structure At (p : Packet) (rest : Bytes) (q : Packet) : Prop where
  bytes : q.bytes = p.bytes
  unread : q.unread = rest
  valid : q.Valid

theorem ensures_read (h : p.Valid) (n : Nat) :
    (read n).Ensures p fun r q ↦ r = .ok (p.unread.take n) ∧ p.At (p.unread.drop n) q := by
  refine ⟨rfl, rfl, ?_, h.advance (List.length_take_le' n _)⟩
  show (p.advance (p.unread.take n).length).unread = _
  rw [unread_advance, List.length_take]
  rcases Nat.le_total n p.unread.length with hle | hle
  · rw [Nat.min_eq_left hle]
  · rw [Nat.min_eq_right hle, List.drop_eq_nil_of_le hle, List.drop_eq_nil_of_le (Nat.le_refl _)]

/-- **What is read agrees with what is read from a list**, which returns none if there is too
little. -/
def Agrees {α : Type} (m : Io (Option α)) (f : Bytes → Option (α × Bytes)) : Prop :=
  ∀ p : Packet, p.Valid → m.Ensures p fun r q ↦ q.bytes = p.bytes ∧ q.Valid ∧
    ((r = .ok none ∧ f p.unread = none) ∨
      ∃ a, r = .ok (some a) ∧ f p.unread = some (a, q.unread))

theorem agrees_readUint (n : Nat) : Agrees (readUint n) (FrameHeader.readUint n) := by
  intro p h
  refine EStateM.Ensures.get_bind ((ensures_read h n).bind ?_ fun e q ⟨he, _⟩ ↦ nomatch he)
  rintro data q ⟨hdata, hq⟩
  cases hdata
  rw [FrameHeader.readUint]
  refine EStateM.Ensures.ite (fun hle ↦ ?_) fun hlt ↦ ?_
  · rw [if_pos hle]
    exact ⟨hq.bytes, hq.valid, .inr ⟨_, rfl,
      congrArg (fun rest ↦ some (BigEndian.decode (p.unread.take n), rest)) hq.unread.symm⟩⟩
  · rw [if_neg hlt]
    exact ⟨hq.bytes, hq.valid, .inl ⟨rfl, rfl⟩⟩

theorem agrees_readLength (lengthByte : UInt8) :
    Agrees (readLength lengthByte) (FrameHeader.readLength lengthByte) := by
  intro p h
  rw [readLength, FrameHeader.readLength]
  refine EStateM.Ensures.ite (fun hpos ↦ ?_) fun hpos ↦ ?_
  · rw [if_pos hpos]
    exact agrees_readUint _ p h
  · rw [if_neg hpos]
    exact ⟨rfl, h, .inr ⟨_, rfl, rfl⟩⟩

theorem agrees_readMask (masked : Bool) :
    Agrees (readMask masked) (FrameHeader.readMask masked) := by
  intro p h
  cases masked with
  | false => exact ⟨rfl, h, .inr ⟨_, rfl, rfl⟩⟩
  | true =>
      refine (ensures_read h 4).bind ?_ fun e q ⟨he, _⟩ ↦ nomatch he
      rintro data q ⟨hdata, hq⟩
      cases hdata
      have hunread := hq.unread
      generalize p.unread = buf at hunread
      refine ⟨?_, ?_, ?_⟩
      all_goals rcases buf with _ | ⟨a, _ | ⟨b, _ | ⟨c, _ | ⟨d, buf⟩⟩⟩⟩
      all_goals first
        | exact hq.bytes
        | exact hq.valid
        | exact .inl ⟨rfl, rfl⟩
        | exact .inr
            ⟨_, rfl, congrArg (fun rest ↦ some (some (Mask.mk a b c d), rest)) hunread.symm⟩

/-- The rest of a header agrees. -/
theorem ensures_parseRest (h : p.Valid) (first second : UInt8) :
    (parseRest first second).Ensures p fun r q ↦ q.bytes = p.bytes ∧ q.Valid ∧
      ((r = .ok none ∧ FrameHeader.parseInternal (first :: second :: p.unread) = none) ∨
        ∃ r', r = r'.map some ∧
          FrameHeader.parseInternal (first :: second :: p.unread) = some (r', q.unread)) := by
  rw [parseRest, FrameHeader.parseInternal]
  cases OpCode.ofByte (first &&& 0x0F) with
  | error halt => exact ⟨rfl, h, .inr ⟨_, rfl, rfl⟩⟩
  | ok opcode =>
      simp only [Option.bind_eq_bind]
      refine EStateM.Ensures.ofExcept_bind rfl ?_
      refine EStateM.Ensures.bind (agrees_readLength (second &&& 0x7F) p h) ?_ ?_
      · rintro length q ⟨hq, hvalid, ⟨⟨⟩, hnone⟩ | ⟨length, ⟨⟩, hsome⟩⟩
        · exact ⟨hq, hvalid, .inl ⟨rfl, by rw [hnone]; rfl⟩⟩
        · rw [hsome, Option.bind_some]
          refine EStateM.Ensures.bind (agrees_readMask (decide (second &&& 0x80 ≠ 0)) q hvalid)
            ?_ ?_
          · rintro mask q' ⟨hq', hvalid', ⟨⟨⟩, hnone⟩ | ⟨mask, ⟨⟩, hsome⟩⟩
            · exact ⟨hq'.trans hq, hvalid', .inl ⟨rfl, by simp only [hnone, Option.bind_none]⟩⟩
            · simp only [hsome, Option.bind_some]
              rw [EStateM.Ensures, FrameHeader.checkOpcode]
              cases opcode.isDefined with
              | true => exact ⟨hq'.trans hq, hvalid', .inr ⟨_, rfl, rfl⟩⟩
              | false => exact ⟨hq'.trans hq, hvalid', .inr ⟨_, rfl, rfl⟩⟩
          · rintro e q' ⟨-, -, ⟨⟨⟩, -⟩ | ⟨mask, ⟨⟩, -⟩⟩
      · rintro e q ⟨-, -, ⟨⟨⟩, -⟩ | ⟨length, ⟨⟩, -⟩⟩

/-- **A header is parsed behind the cursor as from a list**, and the cursor stays in the packet. -/
theorem ensures_parse (h : p.Valid) :
    parse.Ensures p fun r q ↦ FrameHeader.parse p.unread = (r, q.unread) ∧ p.At q.unread q := by
  refine EStateM.Ensures.get_bind ?_
  have hinternal : parseInternal.Ensures p fun r q ↦ q.bytes = p.bytes ∧ q.Valid ∧
      ((r = .ok none ∧ FrameHeader.parseInternal p.unread = none) ∨
        ∃ r', r = r'.map some ∧ FrameHeader.parseInternal p.unread = some (r', q.unread)) := by
    refine (ensures_read h 2).bind ?_ fun e q ⟨he, _⟩ ↦ nomatch he
    rintro head q ⟨hhead, hq⟩
    cases hhead
    have hunread := hq.unread
    generalize p.unread = buf at hunread
    rcases buf with _ | ⟨first, _ | ⟨second, buf⟩⟩
    · exact ⟨hq.bytes, hq.valid, .inl ⟨rfl, rfl⟩⟩
    · exact ⟨hq.bytes, hq.valid, .inl ⟨rfl, rfl⟩⟩
    · refine (ensures_parseRest hq.valid first second).mono ?_
      rintro r q' ⟨hbytes, hvalid, hr⟩
      rw [hunread] at hr
      exact ⟨hbytes.trans hq.bytes, hvalid, hr⟩
  refine hinternal.bind ?_ ?_
  · rintro header q ⟨hbytes, hvalid, ⟨⟨⟩, hnone⟩ | ⟨r', hr', hsome⟩⟩
    · refine ⟨?_, hbytes, rfl, ?_⟩
      · rw [FrameHeader.parse, hnone]
        show _ = (_, q.bytes.drop p.position)
        rw [hbytes]
        rfl
      · show p.position ≤ q.bytes.length
        rw [hbytes]
        exact h
    · cases r' with
      | error e => cases hr'
      | ok header =>
          cases hr'
          rw [FrameHeader.parse, hsome]
          exact ⟨rfl, hbytes, rfl, hvalid⟩
  · rintro e q ⟨hbytes, hvalid, ⟨⟨⟩, -⟩ | ⟨r', hr', hsome⟩⟩
    rw [FrameHeader.parse, hsome, hr']
    exact ⟨rfl, hbytes, rfl, hvalid⟩

/-! ### What is written is read -/

/-- A cursor that has read `front` has gone on by as many bytes. -/
theorem At.eq_advance {q : Packet} {front rest : Bytes} (hq : p.At rest q) (h : p.Valid)
    (hunread : p.unread = front ++ rest) : q = p.advance front.length := by
  have hp := p.length_unread
  have hrest := q.length_unread
  rw [hunread, List.length_append] at hp
  rw [hq.unread, hq.bytes] at hrest
  have hvalid := hq.valid
  rw [Valid, hq.bytes] at hvalid
  rw [Valid] at h
  obtain ⟨bytes, position⟩ := q
  obtain rfl : bytes = p.bytes := hq.bytes
  have hposition : position = p.position + front.length := by
    simp only at hrest hvalid
    omega
  rw [hposition]
  rfl

/-- **A header is read as it was written**, whatever stands behind it: the cursor goes on by the
length of the header.  With a part of the header only, the cursor stays where it is. -/
theorem parse_of_format {h : FrameHeader} (hopcode : h.opcode.isDefined) {length : Nat}
    (hlength : length < 2 ^ 64) {p : Packet} (hvalid : p.Valid) :
    (∀ trailing, p.unread = h.format length ++ trailing →
        parse.attempt p = (.ok (some (h, length)), p.advance (h.len length))) ∧
      ∀ buf, buf <+: h.format length → buf ≠ h.format length → p.unread = buf →
        parse.attempt p = (.ok none, p) := by
  have hparse := ensures_parse hvalid
  rw [EStateM.Ensures] at hparse
  generalize parse.attempt p = out at hparse
  obtain ⟨r, q⟩ := out
  obtain ⟨hread, hq⟩ : FrameHeader.parse p.unread = (r, q.unread) ∧ p.At q.unread q := hparse
  constructor
  · intro trailing hunread
    rw [hunread, FrameHeader.parse_format hopcode hlength] at hread
    cases hread
    rw [hq.eq_advance hvalid hunread, FrameHeader.length_format]
  · rintro buf ⟨more, hmore⟩ hne hunread
    have hshort : more ≠ [] := by
      rintro rfl
      exact hne ((List.append_nil buf).symm.trans hmore)
    rw [hunread, FrameHeader.parse_of_lt hopcode hlength hshort hmore] at hread
    cases hread
    have hnil : p.unread = [] ++ q.unread := hunread
    rw [hq.eq_advance hvalid hnil]
    rfl

/-- A masked header for 126 bytes, behind a byte that has been read, and its first five bytes. -/
theorem parse_of_format_masked :
    let h : FrameHeader := ⟨true, false, false, false, .data .binary, some ⟨1, 2, 3, 4⟩⟩
    parse.attempt ⟨0 :: h.format 126 ++ [9], 1⟩ =
        (.ok (some (h, 126)), ⟨0 :: h.format 126 ++ [9], 9⟩) ∧
      parse.attempt ⟨0 :: (h.format 126).take 5, 1⟩ =
        (.ok none, ⟨0 :: (h.format 126).take 5, 1⟩) := by
  intro h
  have hlength : 126 < 2 ^ 64 := by decide
  constructor
  · have hvalid : Valid ⟨0 :: h.format 126 ++ [9], 1⟩ := Nat.succ_le_succ (Nat.zero_le _)
    exact (parse_of_format (h := h) rfl hlength hvalid).1 [9] rfl
  · have hvalid : Valid ⟨0 :: (h.format 126).take 5, 1⟩ :=
      Nat.succ_le_succ (Nat.zero_le _)
    exact (parse_of_format (h := h) rfl hlength hvalid).2 _ (List.take_prefix 5 _) (by decide) rfl

end Packet

/-- What the `net_packet` crate does when a packet is filled from a stream. -/
structure PacketCrate where
  /-- `read_from`, if the stream gave these bytes. -/
  readFrom : Packet → Bytes → Packet

/-- **What is relied on**: the bytes come behind those that are there, and what has been read may
be dropped. -/
structure PacketCrate.Lawful (net : PacketCrate) : Prop where
  unread : ∀ {p : Packet} (data : Bytes), p.Valid → (net.readFrom p data).unread = p.unread ++ data
  valid : ∀ {p : Packet} (data : Bytes), p.Valid → (net.readFrom p data).Valid

/-- A packet that grows at its end. -/
def PacketCrate.growing : PacketCrate := ⟨fun p data ↦ { p with bytes := p.bytes ++ data }⟩

theorem PacketCrate.growing_lawful : growing.Lawful where
  unread _ h := List.drop_append_of_le_length h
  valid data h := by
    rw [growing, Packet.Valid, List.length_append]
    exact Nat.le_add_right_of_le h

/-! ## The decoder -/

/-- The part of a codec that reads. -/
structure Decoder where
  /-- Buffer to read data from the stream. -/
  inBuffer : Packet
  /-- Header and remaining size of the incoming packet being processed. -/
  header : Option (FrameHeader × Nat)

namespace Decoder

/-- Code that decodes. -/
abbrev Io (α : Type) := EStateM Error Decoder α

/-- The buffer is read. -/
def onBuffer {α : Type} (m : Packet.Io α) : Io α :=
  m.zoom inBuffer fun inBuffer d ↦ { d with inBuffer }

/-- The header, parsed now if it was not before. -/
def nextHeader : Io (Option (FrameHeader × Nat)) := do
  let d ← get
  match d.header with
  | some header => return some header
  | none =>
      let header ← onBuffer Packet.parse
      modify fun d ↦ { d with header }
      return header

/-- A turn of the loop of `readFrame`: the payload, if the buffer holds the whole of it. -/
def nextPayload (maxSize : Nat) : Io (Option Bytes) := do
  match ← nextHeader with
  | none => return none
  | some (_, length) =>
      -- Enforce frame size limit early.
      if maxSize < length then throw (.messageTooLong length maxSize)
      else
        let d ← get
        let inputSize ← EStateM.ofExcept (checkedSub d.inBuffer.bytes.length d.inBuffer.position)
        if length ≤ inputSize then
          let payload ← onBuffer (Packet.read length)
          return some payload
        else return none

/-- What the loop of `readFrame` ends with. -/
structure PayloadRead where
  result : Except Error (Option Bytes)
  decoder : Decoder
  reads : List ReadCall
  count : Nat

/-- The loop of `readFrame`: as long as the buffer holds no frame, it is filled from the stream. -/
def readLoop (net : PacketCrate) (maxSize : Nat) (d : Decoder) : List ReadCall → PayloadRead
  | [] =>
      match (nextPayload maxSize).attempt d with
      | (.ok none, d) => ⟨.error (.io .wouldBlock), d, [], 1⟩
      | (r, d) => ⟨r, d, [], 0⟩
  | call :: reads =>
      match (nextPayload maxSize).attempt d with
      | (.ok none, d) =>
          match call with
          | .err kind => ⟨.error (.io kind), d, reads, 1⟩
          | .ok [] => ⟨.ok none, d, reads, 1⟩
          | .ok data =>
              let out :=
                readLoop net maxSize { d with inBuffer := net.readFrom d.inBuffer data } reads
              { out with count := out.count + 1 }
      | (r, d) => ⟨r, d, call :: reads, 0⟩

/-- The end of `readFrame`: the header is taken, which must be there. -/
def takeFrame (payload : Bytes) : Io Frame := do
  let d ← get
  set ({ d with header := none } : Decoder)
  match d.header with
  | none => throw (.halt (.panic .unwrap))
  | some (header, length) =>
      EStateM.ofExcept (require (payload.length = length) .assertion)
      return ⟨header, payload⟩

/-! ## What a decoder stands for -/

variable {net : PacketCrate} {d : Decoder}

/-- A codec that has decoded so much. -/
def codec (c : FrameCodec) (d : Decoder) : FrameCodec :=
  { c with inBuffer := d.inBuffer.unread, header := d.header }

/-- What the codec does, if the decoder ends so: the frame has its header then. -/
inductive Ends (c : FrameCodec) (d : Decoder) :
    Except Error (Option Bytes) → Except Error (Option Frame) × FrameCodec → Prop
  | error (e : Error) : Ends c d (.error e) (.error e, d.codec c)
  | more : Ends c d (.ok none) (.ok none, d.codec c)
  | payload {header : FrameHeader} {payload : Bytes}
      (h : d.header = some (header, payload.length)) :
      Ends c d (.ok (some payload))
        (.ok (some ⟨header, payload⟩), codec c { d with header := none })

/-- The next header is the one that the codec sees. -/
theorem ensures_nextHeader (c : FrameCodec) (h : d.inBuffer.Valid) :
    nextHeader.Ensures d fun r d' ↦ (d.codec c).nextHeader = (r, d'.codec c) ∧ d'.inBuffer.Valid ∧
      ∀ header, r = .ok header → d'.header = header := by
  refine EStateM.Ensures.get_bind ?_
  show EStateM.Ensures (match d.header with | some header => _ | none => _) d _
  cases hheader : d.header with
  | some header =>
      refine ⟨?_, h, ?_⟩
      · rw [FrameCodec.nextHeader_some (c := d.codec c) hheader]
        rfl
      · rintro _ ⟨⟩
        exact hheader
  | none =>
      rw [FrameCodec.nextHeader_none (c := d.codec c) hheader]
      show EStateM.Ensures (onBuffer Packet.parse >>= _) d _
      have hparse : (onBuffer Packet.parse).Ensures d fun r d' ↦
          FrameHeader.parse (d.codec c).inBuffer = (r, d'.inBuffer.unread) ∧
            d'.inBuffer.Valid ∧ d'.header = d.header :=
        EStateM.Ensures.zoom ((Packet.ensures_parse h).mono fun r q ⟨hr, hq⟩ ↦ ⟨hr, hq.valid, rfl⟩)
      refine hparse.bind ?_ ?_
      · rintro header d' ⟨hr, hd', -⟩
        refine EStateM.Ensures.modify_bind ⟨?_, hd', ?_⟩
        · rw [hr]
          rfl
        · rintro _ ⟨⟩
          rfl
      · rintro e d' ⟨hr, hd', hsame⟩
        refine ⟨?_, hd', fun _ h ↦ nomatch h⟩
        rw [hr]
        simp only [codec, hsame]

/-- **A turn of the loop does what the codec does.** -/
theorem ends_nextPayload (maxSize : Nat) (c : FrameCodec) (h : d.inBuffer.Valid) :
    (nextPayload maxSize).Ensures d fun r d' ↦
      Ends c d' r ((d.codec c).nextFrame maxSize) ∧ d'.inBuffer.Valid := by
  refine (ensures_nextHeader c h).bind ?_ ?_
  · rintro header d' ⟨hheader, hd', hsome⟩
    have hd'header := hsome header rfl
    rw [FrameCodec.nextFrame, hheader]
    rcases header with _ | ⟨header, length⟩
    · exact ⟨.more, hd'⟩
    · refine EStateM.Ensures.ite (fun hlarge ↦ ?_) fun hsmall ↦ ?_
      · simp only [if_pos hlarge]
        exact ⟨.error _, hd'⟩
      · refine EStateM.Ensures.get_bind ?_
        rw [checkedSub_of_le hd', ← Packet.length_unread]
        have hlength : (d'.codec c).inBuffer.length = d'.inBuffer.unread.length := rfl
        simp only [if_neg hsmall, hlength]
        refine EStateM.Ensures.ite (fun hle ↦ ?_) fun hlt ↦ ?_
        · rw [if_pos hle]
          have hread : (onBuffer (Packet.read length)).Ensures d' fun r d'' ↦
              r = .ok (d'.inBuffer.unread.take length) ∧
                d''.inBuffer.unread = d'.inBuffer.unread.drop length ∧ d''.inBuffer.Valid ∧
                  d''.header = some (header, length) :=
            EStateM.Ensures.zoom ((Packet.ensures_read hd' length).mono
              fun r q hq ↦ ⟨hq.1, hq.2.unread, hq.2.valid, hd'header⟩)
          refine hread.bind ?_ fun e d'' he ↦ by cases he.1
          rintro payload d'' ⟨hpayload, hunread, hvalid, hd''⟩
          cases hpayload
          have htake : (d'.inBuffer.unread.take length).length = length :=
            List.length_take_of_le hle
          refine ⟨?_, hvalid⟩
          have hends : Ends c d'' (.ok (some (d'.inBuffer.unread.take length)))
              (.ok (some ⟨header, d'.inBuffer.unread.take length⟩),
                codec c { d'' with header := none }) := .payload (by rw [htake]; exact hd'')
          have hcodec : codec c { d'' with header := none } =
              { d'.codec c with inBuffer := d'.inBuffer.unread.drop length, header := none } := by
            rw [← hunread]
            rfl
          rw [hcodec] at hends
          exact hends
        · rw [if_neg hlt]
          exact ⟨.more, hd'⟩
  · rintro e d' ⟨hheader, hd', -⟩
    rw [FrameCodec.nextFrame, hheader]
    exact ⟨.error e, hd'⟩

/-- A decoder that the stream has filled is a codec with more input. -/
theorem codec_filled (hnet : net.Lawful) (c : FrameCodec) (h : d.inBuffer.Valid) (data : Bytes) :
    codec c { d with inBuffer := net.readFrom d.inBuffer data } = (d.codec c).fed data := by
  show FrameCodec.mk (net.readFrom d.inBuffer data).unread _ _ _ _ = _
  rw [hnet.unread data h]
  rfl

/-- **The loop does what the loop of the codec does**, and the cursor stays in its packet. -/
theorem readLoop_view (hnet : net.Lawful) (maxSize : Nat) (c : FrameCodec) (reads : List ReadCall)
    (h : d.inBuffer.Valid) :
    let out := readLoop net maxSize d reads
    let out' := (d.codec c).readLoop maxSize reads
    Ends c out.decoder out.result (out'.result, out'.codec) ∧ out.decoder.inBuffer.Valid ∧
      out.reads = out'.reads ∧ out.count = out'.count := by
  induction reads generalizing d with
  | nil =>
      obtain ⟨hends, hvalid⟩ := ends_nextPayload maxSize c h
      rw [readLoop, FrameCodec.readLoop]
      generalize (nextPayload maxSize).attempt d = out at hends hvalid
      generalize (d.codec c).nextFrame maxSize = out' at hends
      obtain ⟨r, d'⟩ := out
      cases hends with
      | error e => exact ⟨.error e, hvalid, rfl, rfl⟩
      | more => exact ⟨.error _, hvalid, rfl, rfl⟩
      | payload hheader => exact ⟨.payload hheader, hvalid, rfl, rfl⟩
  | cons call reads ih =>
      obtain ⟨hends, hvalid⟩ := ends_nextPayload maxSize c h
      rw [readLoop, FrameCodec.readLoop]
      generalize (nextPayload maxSize).attempt d = out at hends hvalid
      generalize (d.codec c).nextFrame maxSize = out' at hends
      obtain ⟨r, d'⟩ := out
      cases hends with
      | error e => exact ⟨.error e, hvalid, rfl, rfl⟩
      | payload hheader => exact ⟨.payload hheader, hvalid, rfl, rfl⟩
      | more =>
          rcases call with (_ | ⟨b, bs⟩) | kind
          · exact ⟨.more, hvalid, rfl, rfl⟩
          · obtain ⟨hends, hvalid', hreads, hcount⟩ :=
              ih (d := { d' with inBuffer := net.readFrom d'.inBuffer (b :: bs) })
                (hnet.valid _ hvalid)
            rw [codec_filled hnet c hvalid] at hends hreads hcount
            exact ⟨hends, hvalid', hreads, congrArg (· + 1) hcount⟩
          · exact ⟨.error _, hvalid, rfl, rfl⟩

/-- The header is there when it is taken. -/
theorem takeFrame_eq {header : FrameHeader} {payload : Bytes}
    (h : d.header = some (header, payload.length)) :
    (takeFrame payload).attempt d = (.ok ⟨header, payload⟩, { d with header := none }) := by
  show EStateM.attempt (match d.header with | none => _ | some (header, length) => _)
    { d with header := none } = _
  rw [h]
  simp only [require, if_pos]
  rfl

end Decoder

end Ws

end MessageIo
