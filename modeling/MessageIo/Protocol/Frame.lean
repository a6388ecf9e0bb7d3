import MessageIo.Lib.BigEndian
import MessageIo.Network.Basic

/-!
# Frames of the WebSocket protocol (`adapters/ws/protocol/frame`)

A frame is a header and a payload.  `FrameHeader.format` writes a header and `FrameHeader.parse`
reads one from the front of a buffer, or leaves the buffer alone if it holds too little.
`parse_format` says that a header is read back with the length it was written for, whatever
stands behind it, and `parse_front` that what is read is a front of the buffer and does not depend
on what stands behind it.

Bodies of the source that would panic end in a `Halt` here.
-/

namespace MessageIo

namespace Ws

/-! ## Codes (`coding.rs`) -/

/-- Data opcodes. -/
inductive Data where
  | «continue»
  | text
  | binary
  | reserved (i : UInt8)
deriving DecidableEq, Repr

/-- Control opcodes. -/
inductive Control where
  | close
  | ping
  | pong
  | reserved (i : UInt8)
deriving DecidableEq, Repr

/-- WebSocket message opcode. -/
inductive OpCode where
  | data (d : Data)
  | control (c : Control)
deriving DecidableEq, Repr

namespace OpCode

/-- `From<OpCode> for u8` -/
def toByte : OpCode → UInt8
  | data .«continue» => 0
  | data .text => 1
  | data .binary => 2
  | data (.reserved i) => i
  | control .close => 8
  | control .ping => 9
  | control .pong => 10
  | control (.reserved i) => i

/-- `From<u8> for OpCode`: a byte out of range is a bug of the caller. -/
def ofByte (byte : UInt8) : Except Halt OpCode :=
  if byte = 0 then .ok (data .«continue»)
  else if byte = 1 then .ok (data .text)
  else if byte = 2 then .ok (data .binary)
  else if 3 ≤ byte ∧ byte ≤ 7 then .ok (data (.reserved byte))
  else if byte = 8 then .ok (control .close)
  else if byte = 9 then .ok (control .ping)
  else if byte = 10 then .ok (control .pong)
  else if 11 ≤ byte ∧ byte ≤ 15 then .ok (control (.reserved byte))
  else .error (.panic .assertion)

/-- An opcode that has a meaning. -/
def isDefined : OpCode → Bool
  | data (.reserved _) => false
  | control (.reserved _) => false
  | _ => true

def isData : OpCode → Bool
  | data _ => true
  | control _ => false

end OpCode

/-- Status code used to indicate why an endpoint is closing the connection. -/
inductive CloseCode where
  | normal
  | away
  | protocol
  | unsupported
  | status
  | abnormal
  | invalid
  | policy
  | size
  | extension
  | error
  | restart
  | again
  | tls
  | reserved (code : UInt16)
  | iana (code : UInt16)
  | library (code : UInt16)
  | bad (code : UInt16)
deriving DecidableEq, Repr

namespace CloseCode

/-- Check if this CloseCode is allowed. -/
def isAllowed : CloseCode → Bool
  | bad _ => false
  | reserved _ => false
  | status => false
  | abnormal => false
  | tls => false
  | _ => true

/-- `From<CloseCode> for u16` -/
def toU16 : CloseCode → UInt16
  | normal => 1000
  | away => 1001
  | protocol => 1002
  | unsupported => 1003
  | status => 1005
  | abnormal => 1006
  | invalid => 1007
  | policy => 1008
  | size => 1009
  | extension => 1010
  | error => 1011
  | restart => 1012
  | again => 1013
  | tls => 1015
  | reserved code => code
  | iana code => code
  | library code => code
  | bad code => code

/-- `From<u16> for CloseCode` -/
def ofU16 (code : UInt16) : CloseCode :=
  match code.toNat with
  | 1000 => normal
  | 1001 => away
  | 1002 => protocol
  | 1003 => unsupported
  | 1005 => status
  | 1006 => abnormal
  | 1007 => invalid
  | 1008 => policy
  | 1009 => size
  | 1010 => extension
  | 1011 => error
  | 1012 => restart
  | 1013 => again
  | 1015 => tls
  | n =>
      if 1 ≤ n ∧ n ≤ 999 then bad code
      else if 1016 ≤ n ∧ n ≤ 2999 then reserved code
      else if 3000 ≤ n ∧ n ≤ 3999 then iana code
      else if 4000 ≤ n ∧ n ≤ 4999 then library code
      else bad code

end CloseCode

/-! ## Masks (`mask.rs`) -/

/-- Four bytes that a payload is masked with. -/
structure Mask where
  byte0 : UInt8
  byte1 : UInt8
  byte2 : UInt8
  byte3 : UInt8
deriving DecidableEq, Repr

namespace Mask

def bytes (m : Mask) : Bytes := [m.byte0, m.byte1, m.byte2, m.byte3]

/-- `mask[i & 3]` -/
def byte (m : Mask) (i : Nat) : UInt8 :=
  match i % 4 with
  | 0 => m.byte0
  | 1 => m.byte1
  | 2 => m.byte2
  | _ => m.byte3

/-- The mask that begins with byte `i`, and goes round. -/
def rotate (m : Mask) (i : Nat) : Mask := ⟨m.byte i, m.byte (i + 1), m.byte (i + 2), m.byte (i + 3)⟩

def zero : Mask := ⟨0, 0, 0, 0⟩

theorem byte_rotate (m : Mask) (i j : Nat) : (m.rotate i).byte j = m.byte (i + j) := by
  have hadd : ∀ k, (i + k) % 4 = (i + k % 4) % 4 := fun k ↦ by rw [Nat.add_mod_mod]
  have hlt := Nat.mod_lt j (show 0 < 4 by decide)
  rw [byte, byte.eq_def m (i + j), hadd j]
  generalize j % 4 = k at hlt
  rcases k with _ | _ | _ | _ | k
  · rfl
  · rfl
  · rfl
  · rfl
  · exact absurd hlt (by omega)

end Mask

/-- A safe unoptimized mask application. -/
def applyMaskFallback (buf : Bytes) (mask : Mask) : Bytes :=
  buf.mapIdx fun i byte ↦ byte ^^^ mask.byte i

/-- Words of four bytes, each with the whole mask. -/
def applyMaskWords (mask : Mask) : Bytes → Bytes
  | a :: b :: c :: d :: rest =>
      (a ^^^ mask.byte0) :: (b ^^^ mask.byte1) :: (c ^^^ mask.byte2) :: (d ^^^ mask.byte3) ::
        applyMaskWords mask rest
  | _ => []

/-- Faster version of the same, for a buffer that is cut into a prefix, words and a suffix. -/
def applyMaskFast32 (pre words suffix : Bytes) (mask : Mask) : Bytes :=
  let head := pre.length % 4
  let rotated := if 0 < head then mask.rotate head else mask
  applyMaskFallback pre mask ++ applyMaskWords rotated words ++ applyMaskFallback suffix rotated

/-- `apply_mask`; see `applyMaskFast32_eq`. -/
def applyMask (buf : Bytes) (mask : Mask) : Bytes := applyMaskFallback buf mask

@[simp] theorem length_applyMask (buf : Bytes) (mask : Mask) :
    (applyMask buf mask).length = buf.length := List.length_mapIdx

/-- **A mask is undone by the same mask.** -/
@[simp] theorem applyMask_applyMask (buf : Bytes) (mask : Mask) :
    applyMask (applyMask buf mask) mask = buf := by
  rw [applyMask, applyMask, applyMaskFallback, applyMaskFallback, List.mapIdx_mapIdx]
  refine List.ext_getElem List.length_mapIdx fun i _ _ ↦ ?_
  rw [List.getElem_mapIdx]
  show (_ ^^^ _) ^^^ _ = _
  rw [UInt8.xor_assoc, UInt8.xor_self, UInt8.xor_zero]

theorem applyMaskFallback_append (xs ys : Bytes) (mask : Mask) :
    applyMaskFallback (xs ++ ys) mask =
      applyMaskFallback xs mask ++ applyMaskFallback ys (mask.rotate xs.length) := by
  rw [applyMaskFallback, List.mapIdx_append, applyMaskFallback, applyMaskFallback]
  congr 2
  funext i byte
  rw [Mask.byte_rotate, Nat.add_comm]

/-- Masks that agree byte by byte do the same. -/
theorem applyMaskFallback_congr {mask mask' : Mask} (h : ∀ i, mask.byte i = mask'.byte i)
    (buf : Bytes) : applyMaskFallback buf mask = applyMaskFallback buf mask' := by
  rw [applyMaskFallback, applyMaskFallback]
  congr 1
  funext i byte
  rw [h]

theorem applyMaskWords_eq {words : Bytes} {mask : Mask} (h : words.length % 4 = 0) :
    applyMaskWords mask words = applyMaskFallback words mask := by
  induction words using applyMaskWords.induct with
  | case1 a b c d rest ih =>
      have hrest : rest.length % 4 = 0 := by
        simp only [List.length_cons] at h
        omega
      have happend := applyMaskFallback_append [a, b, c, d] rest mask
      rw [List.cons_append, List.cons_append, List.cons_append, List.cons_append,
        List.nil_append] at happend
      have hround : ∀ i, (mask.rotate 4).byte i = mask.byte i := by
        intro i
        rw [Mask.byte_rotate, Mask.byte, Mask.byte.eq_def mask i, Nat.add_mod_left]
      rw [applyMaskWords, ih hrest, happend]
      show applyMaskFallback [a, b, c, d] mask ++ applyMaskFallback rest mask =
        applyMaskFallback [a, b, c, d] mask ++ applyMaskFallback rest (mask.rotate 4)
      rw [applyMaskFallback_congr hround]
  | case2 words hwords =>
      rcases words with _ | ⟨a, _ | ⟨b, _ | ⟨c, _ | ⟨d, rest⟩⟩⟩⟩
      · rfl
      · cases h
      · cases h
      · cases h
      · exact absurd rfl (hwords a b c d rest)

/-- **The faster version does the same**, however the buffer is cut. -/
theorem applyMaskFast32_eq (pre : Bytes) {words : Bytes} (suffix : Bytes) (mask : Mask)
    (h : words.length % 4 = 0) :
    applyMaskFast32 pre words suffix mask = applyMask (pre ++ words ++ suffix) mask := by
  have hrotated : ∀ i, (if 0 < pre.length % 4 then mask.rotate (pre.length % 4) else mask).byte i =
      (mask.rotate pre.length).byte i := by
    intro i
    have hmod : mask.byte (pre.length % 4 + i) = mask.byte (pre.length + i) := by
      rw [Mask.byte, Mask.byte, Nat.mod_add_mod]
    split
    · rw [Mask.byte_rotate, Mask.byte_rotate, hmod]
    · rename_i hzero
      rw [Nat.eq_zero_of_not_pos hzero, Nat.zero_add] at hmod
      rw [Mask.byte_rotate, hmod]
  have hwords : ∀ i, ((mask.rotate pre.length).rotate words.length).byte i =
      (mask.rotate pre.length).byte i := by
    intro i
    rw [Mask.byte_rotate, Mask.byte, Mask.byte.eq_def _ i, ← Nat.mod_add_mod, h, Nat.zero_add]
  rw [applyMask, List.append_assoc, applyMaskFallback_append, applyMaskFallback_append,
    applyMaskFallback_congr hwords, applyMaskFast32, applyMaskWords_eq h,
    applyMaskFallback_congr hrotated, applyMaskFallback_congr hrotated, List.append_assoc]

/-! ## Headers (`frame.rs`) -/

/-- A struct representing a WebSocket frame header. -/
structure FrameHeader where
  isFinal : Bool
  rsv1 : Bool
  rsv2 : Bool
  rsv3 : Bool
  opcode : OpCode
  /-- A frame mask, if any. -/
  mask : Option Mask
deriving DecidableEq, Repr

def FrameHeader.default : FrameHeader := ⟨true, false, false, false, .control .close, none⟩

/-- Handling of the length format. -/
inductive LengthFormat where
  | u8 (b : UInt8)
  | u16
  | u64
deriving DecidableEq, Repr

namespace LengthFormat

/-- Get length format for a given data size. -/
def forLength (length : Nat) : LengthFormat :=
  if length < 126 then u8 (UInt8.ofNat length)
  else if length < 65536 then u16
  else u64

/-- Get the size of length encoding. -/
def extraBytes : LengthFormat → Nat
  | u8 _ => 0
  | u16 => 2
  | u64 => 8

/-- Encode the given length. -/
def lengthByte : LengthFormat → UInt8
  | u8 b => b
  | u16 => 126
  | u64 => 127

/-- Get length format for a given length byte. -/
def forByte (byte : UInt8) : LengthFormat :=
  if byte &&& 0x7F = 126 then u16
  else if byte &&& 0x7F = 127 then u64
  else u8 (byte &&& 0x7F)

end LengthFormat

/-- A struct representing a WebSocket frame. -/
structure Frame where
  header : FrameHeader
  payload : Bytes
deriving DecidableEq, Repr

/-- A struct representing the close command. -/
structure CloseFrame where
  code : CloseCode
  reason : Bytes
deriving DecidableEq, Repr

/-- An enum representing the various forms of a WebSocket message. -/
inductive Message where
  | text (string : String)
  | binary (buffer : Bytes)
  | ping (buffer : Bytes)
  | pong (buffer : Bytes)
  | close (data : Option CloseFrame)
  /-- Raw frame. -/
  | frame (frame : Frame)
deriving DecidableEq, Repr

/-! ## Errors (`error.rs`) -/

/-- The protocol errors of an open connection. -/
inductive ProtocolError where
  | sendAfterClosing
  | receivedAfterClosing
  | nonZeroReservedBits
  | unmaskedFrameFromClient
  | maskedFrameFromServer
  | fragmentedControlFrame
  | controlFrameTooBig
  | unknownControlFrameType (i : UInt8)
  | unknownDataFrameType (i : UInt8)
  | unexpectedContinueFrame
  | expectedFragment (d : Data)
  | resetWithoutClosingHandshake
  | invalidOpcode (i : UInt8)
  | invalidCloseSequence
deriving DecidableEq, Repr

/-- The errors of an open connection, and what keeps a call from returning. -/
inductive Error where
  | connectionClosed
  | alreadyClosed
  | io (kind : ErrorKind)
  /-- `CapacityError::MessageTooLong` -/
  | messageTooLong (size maxSize : Nat)
  | protocol (e : ProtocolError)
  | writeBufferFull (message : Message)
  | utf8
  | halt (h : Halt)
deriving DecidableEq, Repr

/-! ## Writing and reading headers -/

/-- A bit of a header byte. -/
def flag (b : Bool) (bit : UInt8) : UInt8 := if b then bit else 0

/-- The length behind the length byte. -/
def LengthFormat.extra (lenfmt : LengthFormat) (length : Nat) : Bytes :=
  BigEndian.encode lenfmt.extraBytes length

namespace FrameHeader

/-- Get the size of the header formatted with given payload length. -/
def len (h : FrameHeader) (length : Nat) : Nat :=
  2 + (LengthFormat.forLength length).extraBytes + if h.mask.isSome then 4 else 0

/-- The mask as it is written. -/
def maskBytes (h : FrameHeader) : Bytes :=
  match h.mask with
  | some mask => mask.bytes
  | none => []

/-- Format a header for given payload size. -/
def format (h : FrameHeader) (length : Nat) : Bytes :=
  let one := h.opcode.toByte ||| flag h.isFinal 0x80 ||| flag h.rsv1 0x40 ||| flag h.rsv2 0x20 |||
    flag h.rsv3 0x10
  let lenfmt := LengthFormat.forLength length
  let two := lenfmt.lengthByte ||| flag h.mask.isSome 0x80
  [one, two] ++ lenfmt.extra length ++ h.maskBytes

/-- `read_uint`: a number of `n` bytes, if there are as many. -/
def readUint (n : Nat) (buf : Bytes) : Option (Nat × Bytes) :=
  if n ≤ buf.length then some (BigEndian.decode (buf.take n), buf.drop n) else none

/-- The length behind the length byte, which has it itself if it is small. -/
def readLength (lengthByte : UInt8) (buf : Bytes) : Option (Nat × Bytes) :=
  let lengthLength := (LengthFormat.forByte lengthByte).extraBytes
  if 0 < lengthLength then readUint lengthLength buf else some (lengthByte.toNat, buf)

/-- The mask, if the header is to have one. -/
def readMask (masked : Bool) (buf : Bytes) : Option (Option Mask × Bytes) :=
  if masked then
    match buf with
    | a :: b :: c :: d :: rest => some (some ⟨a, b, c, d⟩, rest)
    | _ => none
  else some (none, buf)

/-- Disallow bad opcode. -/
def checkOpcode (first : UInt8) (opcode : OpCode) : Except Error Unit :=
  if opcode.isDefined then .ok () else .error (.protocol (.invalidOpcode (first &&& 0x0F)))

/-- `parse_internal`: none if the buffer holds too little, and else the header, or the error,
and what is left of the buffer. -/
def parseInternal : Bytes → Option (Except Error (FrameHeader × Nat) × Bytes)
  | first :: second :: buf =>
      match OpCode.ofByte (first &&& 0x0F) with
      | .error halt => some (.error (.halt halt), buf)
      | .ok opcode => do
          let (length, buf) ← readLength (second &&& 0x7F) buf
          let (mask, buf) ← readMask (second &&& 0x80 ≠ 0) buf
          let hdr : FrameHeader := ⟨first &&& 0x80 ≠ 0, first &&& 0x40 ≠ 0, first &&& 0x20 ≠ 0,
            first &&& 0x10 ≠ 0, opcode, mask⟩
          return ((checkOpcode first opcode).map fun () ↦ (hdr, length), buf)
  | _ => none

/-- Parse a header from an input stream.  With too little of it, the buffer stays as it is. -/
def parse (buf : Bytes) : Except Error (Option (FrameHeader × Nat)) × Bytes :=
  match parseInternal buf with
  | some (r, rest) => (r.map some, rest)
  | none => (.ok none, buf)

end FrameHeader

/-! ### What is written is read -/

/-- The two parts of the second byte. -/
theorem second_bits : ∀ (n : Fin 128) (masked : Bool),
    (UInt8.ofNat n ||| flag masked 0x80) &&& 0x7F = UInt8.ofNat n ∧
      ((UInt8.ofNat n ||| flag masked 0x80) &&& 0x80 ≠ 0 ↔ masked = true) := by decide +kernel

/-- The parts of the first byte. -/
theorem first_bits {opcode : OpCode} (h : opcode.isDefined) (isFinal rsv1 rsv2 rsv3 : Bool) :
    let one := opcode.toByte ||| flag isFinal 0x80 ||| flag rsv1 0x40 ||| flag rsv2 0x20 |||
      flag rsv3 0x10
    OpCode.ofByte (one &&& 0x0F) = .ok opcode ∧
      (one &&& 0x80 ≠ 0 ↔ isFinal = true) ∧ (one &&& 0x40 ≠ 0 ↔ rsv1 = true) ∧
        (one &&& 0x20 ≠ 0 ↔ rsv2 = true) ∧ (one &&& 0x10 ≠ 0 ↔ rsv3 = true) := by
  cases opcode with
  | data d =>
      cases d with
      | reserved i => cases h
      | «continue» => revert isFinal rsv1 rsv2 rsv3; decide +kernel
      | text => revert isFinal rsv1 rsv2 rsv3; decide +kernel
      | binary => revert isFinal rsv1 rsv2 rsv3; decide +kernel
  | control c =>
      cases c with
      | reserved i => cases h
      | close => revert isFinal rsv1 rsv2 rsv3; decide +kernel
      | ping => revert isFinal rsv1 rsv2 rsv3; decide +kernel
      | pong => revert isFinal rsv1 rsv2 rsv3; decide +kernel

namespace FrameHeader

theorem readUint_append {n : Nat} {bs : Bytes} (h : bs.length = n) (rest : Bytes) :
    readUint n (bs ++ rest) = some (BigEndian.decode bs, rest) := by
  rw [readUint, if_pos (by rw [List.length_append]; omega), List.take_left' h, List.drop_left' h]

/-- A length is read as it was written. -/
theorem readLength_extra {length : Nat} (h : length < 2 ^ 64) (rest : Bytes) :
    readLength (LengthFormat.forLength length).lengthByte
      ((LengthFormat.forLength length).extra length ++ rest) = some (length, rest) := by
  rw [LengthFormat.forLength]
  by_cases hsmall : length < 126
  · have hbyte : (UInt8.ofNat length).toNat = length := by
      rw [UInt8.toNat_ofNat']
      exact Nat.mod_eq_of_lt (by omega)
    have hbits := (second_bits ⟨length, by omega⟩ false).1
    rw [flag, if_neg Bool.false_ne_true, UInt8.or_zero] at hbits
    have hformat : LengthFormat.forByte (UInt8.ofNat length) = .u8 (UInt8.ofNat length) := by
      rw [LengthFormat.forByte, hbits, if_neg, if_neg]
      · intro heq
        have := congrArg UInt8.toNat heq
        rw [hbyte] at this
        have : length = 127 := this
        omega
      · intro heq
        have := congrArg UInt8.toNat heq
        rw [hbyte] at this
        have : length = 126 := this
        omega
    rw [if_pos hsmall, LengthFormat.lengthByte, readLength, hformat,
      if_neg (by exact Nat.lt_irrefl 0), hbyte]
    rfl
  · rw [if_neg hsmall]
    by_cases hmedium : length < 65536
    · rw [if_pos hmedium]
      have hread := readUint_append (BigEndian.length_encode 2 length) rest
      rw [BigEndian.decode_encode_of_lt (by omega)] at hread
      exact hread
    · rw [if_neg hmedium]
      have hread := readUint_append (BigEndian.length_encode 8 length) rest
      rw [BigEndian.decode_encode_of_lt (by omega)] at hread
      exact hread

theorem readMask_maskBytes (h : FrameHeader) (rest : Bytes) :
    readMask h.mask.isSome (h.maskBytes ++ rest) = some (h.mask, rest) := by
  rw [maskBytes]
  cases h.mask with
  | none => rfl
  | some mask => rfl

/-- The length byte leaves the highest bit free. -/
theorem lengthByte_eq (length : Nat) :
    ∃ n : Fin 128, (LengthFormat.forLength length).lengthByte = UInt8.ofNat n := by
  rw [LengthFormat.forLength]
  by_cases hsmall : length < 126
  · rw [if_pos hsmall]
    exact ⟨⟨length, by omega⟩, rfl⟩
  · rw [if_neg hsmall]
    by_cases hmedium : length < 65536
    · rw [if_pos hmedium]
      exact ⟨126, rfl⟩
    · rw [if_neg hmedium]
      exact ⟨127, rfl⟩

/-- **A header is read as it was written**, with the length of its payload, whatever stands
behind it. -/
theorem parseInternal_format {h : FrameHeader} (hopcode : h.opcode.isDefined) {length : Nat}
    (hlength : length < 2 ^ 64) (rest : Bytes) :
    parseInternal (h.format length ++ rest) = some (.ok (h, length), rest) := by
  obtain ⟨isFinal, rsv1, rsv2, rsv3, opcode, mask⟩ := h
  obtain ⟨hofByte, hfinal, h1, h2, h3⟩ := first_bits hopcode isFinal rsv1 rsv2 rsv3
  obtain ⟨n, hn⟩ := lengthByte_eq length
  obtain ⟨hlow, hhigh⟩ := second_bits n mask.isSome
  rw [← hn] at hlow hhigh
  have hread := readLength_extra hlength
    (maskBytes ⟨isFinal, rsv1, rsv2, rsv3, opcode, mask⟩ ++ rest)
  have hmask := readMask_maskBytes ⟨isFinal, rsv1, rsv2, rsv3, opcode, mask⟩ rest
  rw [format, List.append_assoc, List.append_assoc, List.cons_append, List.cons_append,
    List.nil_append, parseInternal, hofByte]
  simp only [hlow, hread, hhigh, hfinal, h1, h2, h3, Option.bind_eq_bind, Option.bind_some,
    Bool.decide_eq_true, hmask, checkOpcode, if_pos hopcode]
  rfl

theorem parse_format {h : FrameHeader} (hopcode : h.opcode.isDefined) {length : Nat}
    (hlength : length < 2 ^ 64) (rest : Bytes) :
    parse (h.format length ++ rest) = (.ok (some (h, length)), rest) := by
  rw [parse, parseInternal_format hopcode hlength]
  rfl

/-! ### What stands behind a header does not matter -/

/-- **A reader takes a front of the buffer**, and does not look at what stands behind it. -/
def ReadsFront {α : Type} (f : Bytes → Option (α × Bytes)) : Prop :=
  ∀ {buf a rest}, f buf = some (a, rest) →
    ∃ front, buf = front ++ rest ∧ ∀ more, f (front ++ more) = some (a, more)

/-- What has been read stays when more bytes arrive. -/
theorem ReadsFront.append {α : Type} {f : Bytes → Option (α × Bytes)} (hf : ReadsFront f)
    {buf rest : Bytes} {a : α} (h : f buf = some (a, rest)) (more : Bytes) :
    f (buf ++ more) = some (a, rest ++ more) := by
  obtain ⟨front, rfl, hfront⟩ := hf h
  rw [List.append_assoc, hfront]

theorem readsFront_readUint (n : Nat) : ReadsFront (readUint n) := by
  intro buf a rest h
  rw [readUint] at h
  split at h
  · rename_i hle
    cases h
    exact ⟨buf.take n, (List.take_append_drop n buf).symm,
      fun more ↦ readUint_append (List.length_take_of_le hle) more⟩
  · cases h

theorem readsFront_readLength (byte : UInt8) : ReadsFront (readLength byte) := by
  intro buf a rest h
  rw [readLength] at h
  split at h
  · rename_i hpos
    obtain ⟨front, hbuf, hfront⟩ := readsFront_readUint _ h
    exact ⟨front, hbuf, fun more ↦ by rw [readLength, if_pos hpos, hfront]⟩
  · rename_i hpos
    cases h
    exact ⟨[], rfl, fun more ↦ by rw [readLength, if_neg hpos, List.nil_append]⟩

theorem readsFront_readMask (masked : Bool) : ReadsFront (readMask masked) := by
  intro buf a rest h
  cases masked with
  | false =>
      cases h
      exact ⟨[], rfl, fun _ ↦ rfl⟩
  | true =>
      rcases buf with _ | ⟨a, _ | ⟨b, _ | ⟨c, _ | ⟨d, buf⟩⟩⟩⟩
      · cases h
      · cases h
      · cases h
      · cases h
      · cases h
        exact ⟨[a, b, c, d], rfl, fun _ ↦ rfl⟩

/-- **A header that is there stays** when more bytes arrive, and takes at least two bytes. -/
theorem readsFront_parseInternal : ReadsFront parseInternal := by
  intro buf r rest h
  rcases buf with _ | ⟨first, _ | ⟨second, buf⟩⟩
  · cases h
  · cases h
  · rw [parseInternal] at h
    cases hofByte : OpCode.ofByte (first &&& 0x0F) with
    | error halt =>
        rw [hofByte] at h
        cases h
        refine ⟨[first, second], rfl, fun more ↦ ?_⟩
        rw [List.cons_append, List.cons_append, parseInternal, hofByte]
        exact rfl
    | ok opcode =>
        rw [hofByte] at h
        obtain ⟨⟨length, buf₁⟩, hlength, h⟩ := Option.bind_eq_some_iff.1 h
        obtain ⟨⟨mask, buf₂⟩, hmask, h⟩ := Option.bind_eq_some_iff.1 h
        cases h
        obtain ⟨front₁, rfl, hfront₁⟩ := readsFront_readLength _ hlength
        obtain ⟨front₂, rfl, hfront₂⟩ := readsFront_readMask _ hmask
        refine ⟨first :: second :: (front₁ ++ front₂), by simp, fun more ↦ ?_⟩
        rw [List.cons_append, List.cons_append, List.append_assoc, parseInternal, hofByte]
        simp only [Option.bind_eq_bind, hfront₁, Option.bind_some, hfront₂]
        exact rfl

theorem parseInternal_le {buf rest : Bytes} {r : Except Error (FrameHeader × Nat)}
    (h : parseInternal buf = some (r, rest)) : rest.length + 2 ≤ buf.length := by
  obtain ⟨front, rfl, hfront⟩ := readsFront_parseInternal h
  have hnil := hfront []
  rcases front with _ | ⟨first, _ | ⟨second, front⟩⟩
  · cases hnil
  · cases hnil
  · rw [List.length_append, List.length_cons, List.length_cons]
    omega

/-- Parsing leaves the buffer as it is, or takes the two bytes at least. -/
theorem parse_le (buf : Bytes) :
    parse buf = (.ok none, buf) ∨ (parse buf).2.length + 2 ≤ buf.length := by
  rw [parse]
  cases h : parseInternal buf with
  | none => exact .inl rfl
  | some out => exact .inr (parseInternal_le h)

/-- With too little, the buffer stays as it is. -/
theorem parse_none {buf rest : Bytes} (h : parse buf = (.ok none, rest)) : rest = buf := by
  rw [parse] at h
  cases hparse : parseInternal buf with
  | none =>
      rw [hparse] at h
      cases h
      rfl
  | some out =>
      obtain ⟨r, rest'⟩ := out
      rw [hparse] at h
      cases r with
      | ok header => cases h
      | error e => cases h

/-- **What is parsed is a front of the buffer**, whatever stands behind it. -/
theorem parse_front {buf rest : Bytes} {r : Except Error (Option (FrameHeader × Nat))}
    (h : parse buf = (r, rest)) (hr : r ≠ .ok none) :
    ∃ front, buf = front ++ rest ∧ ∀ more, parse (front ++ more) = (r, more) := by
  rw [parse] at h
  cases hparse : parseInternal buf with
  | none =>
      rw [hparse] at h
      cases h
      exact absurd rfl hr
  | some out =>
      rw [hparse] at h
      cases h
      obtain ⟨front, hbuf, hfront⟩ := readsFront_parseInternal hparse
      exact ⟨front, hbuf, fun more ↦ by rw [parse, hfront]⟩

/-- Four bits are an opcode. -/
theorem ofByte_masked (b : UInt8) : ∃ opcode, OpCode.ofByte (b &&& 0x0F) = .ok opcode := by
  have hall : ∀ n : Fin 256, (OpCode.ofByte (UInt8.ofNat n &&& 0x0F)).toOption.isSome := by
    decide +kernel
  have hb := hall ⟨b.toNat, b.toNat_lt⟩
  rw [UInt8.ofNat_toNat] at hb
  cases hofByte : OpCode.ofByte (b &&& 0x0F) with
  | ok opcode => exact ⟨opcode, rfl⟩
  | error halt =>
      rw [hofByte] at hb
      cases hb

/-- **The only error is an opcode without a meaning.** -/
theorem parse_error {buf : Bytes} {e : Error} (h : (parse buf).1 = .error e) :
    ∃ i, e = .protocol (.invalidOpcode i) := by
  rw [parse] at h
  rcases buf with _ | ⟨first, _ | ⟨second, buf⟩⟩
  · cases h
  · cases h
  · obtain ⟨opcode, hofByte⟩ := ofByte_masked first
    rw [parseInternal, hofByte] at h
    simp only [Option.bind_eq_bind] at h
    cases hlength : readLength (second &&& 0x7F) buf with
    | none =>
        rw [hlength] at h
        cases h
    | some lengthRest =>
        rw [hlength, Option.bind_some] at h
        cases hmask : readMask (decide (second &&& 0x80 ≠ 0)) lengthRest.2 with
        | none =>
            rw [hmask] at h
            cases h
        | some maskRest =>
            simp only [hmask, Option.bind_some, checkOpcode] at h
            by_cases hdefined : opcode.isDefined
            · rw [if_pos hdefined] at h
              cases h
            · rw [if_neg hdefined] at h
              cases h
              exact ⟨_, rfl⟩

/-- **Too little of a header** is left alone. -/
theorem parse_of_lt {h : FrameHeader} (hopcode : h.opcode.isDefined) {length : Nat}
    (hlength : length < 2 ^ 64) {buf more : Bytes} (hmore : more ≠ [])
    (hbuf : buf ++ more = h.format length) : parse buf = (.ok none, buf) := by
  cases hparse : parseInternal buf with
  | none => rw [parse, hparse]
  | some out =>
      obtain ⟨r, rest⟩ := out
      have happend := readsFront_parseInternal.append hparse more
      have hformat := parseInternal_format hopcode hlength []
      rw [List.append_nil, ← hbuf, happend] at hformat
      have hnil : rest ++ more = [] := congrArg Prod.snd (Option.some.inj hformat)
      exact absurd (List.append_eq_nil_iff.1 hnil).2 hmore

@[simp] theorem length_format (h : FrameHeader) (length : Nat) :
    (h.format length).length = h.len length := by
  obtain ⟨isFinal, rsv1, rsv2, rsv3, opcode, mask⟩ := h
  have hextra := BigEndian.length_encode (LengthFormat.forLength length).extraBytes length
  cases mask with
  | none =>
      rw [format, List.length_append, List.length_append, LengthFormat.extra, hextra]
      rfl
  | some mask =>
      rw [format, List.length_append, List.length_append, LengthFormat.extra, hextra]
      rfl

end FrameHeader

/-! ## Frames -/

namespace Frame

/-- Get the length of the frame: the header and the payload. -/
def len (f : Frame) : Nat := f.header.len f.payload.length + f.payload.length

/-- Test whether the frame is masked. -/
def isMasked (f : Frame) : Bool := f.header.mask.isSome

def setMask (f : Frame) (mask : Mask) : Frame :=
  { f with header := { f.header with mask := some mask } }

/-- Unmask the payload; the frame forgets its mask. -/
def applyMask (f : Frame) : Frame :=
  match f.header.mask with
  | some mask => ⟨{ f.header with mask := none }, Ws.applyMask f.payload mask⟩
  | none => f

/-- Consume the frame into a closing frame. -/
def intoClose (f : Frame) : Except Error (Option CloseFrame) :=
  match f.payload with
  | [] => .ok none
  | [_] => .error (.protocol .invalidCloseSequence)
  | a :: b :: reason =>
      .ok (some ⟨.ofU16 (UInt16.ofNat (BigEndian.decode [a, b])), reason⟩)

/-- Create a new data frame; `message` is called with data opcodes only. -/
def message (payload : Bytes) (d : Data) (isFinal : Bool) : Frame :=
  ⟨{ FrameHeader.default with isFinal, opcode := .data d }, payload⟩

/-- Create a new Pong control frame. -/
def pong (payload : Bytes) : Frame :=
  ⟨{ FrameHeader.default with opcode := .control .pong }, payload⟩

/-- Create a new Ping control frame. -/
def ping (payload : Bytes) : Frame :=
  ⟨{ FrameHeader.default with opcode := .control .ping }, payload⟩

/-- Create a new Close control frame: without a close command there is none. -/
def close (msg : Option CloseFrame) : Option Frame :=
  msg.map fun c ↦ ⟨FrameHeader.default, BigEndian.encode 2 c.code.toU16.toNat ++ c.reason⟩

/-- Write a frame out to a buffer. -/
def format (f : Frame) : Bytes :=
  f.header.format f.payload.length ++ f.applyMask.payload

@[simp] theorem length_payload_applyMask (f : Frame) :
    f.applyMask.payload.length = f.payload.length := by
  rw [applyMask]
  cases f.header.mask with
  | none => rfl
  | some mask => exact length_applyMask f.payload mask

@[simp] theorem length_format (f : Frame) : f.format.length = f.len := by
  rw [format, List.length_append, FrameHeader.length_format, length_payload_applyMask, len]

/-- A frame takes at least two bytes. -/
theorem two_le_len (f : Frame) : 2 ≤ f.len := by
  rw [len, FrameHeader.len]
  omega

/-- A Close frame. -/
def isClose (f : Frame) : Bool := f.header.opcode = .control .close

/-- A Pong frame. -/
def isPong (f : Frame) : Bool := f.header.opcode = .control .pong

/-- A frame of data. -/
def isData (f : Frame) : Bool := f.header.opcode.isData

end Frame

end Ws

end MessageIo
