import MessageIo.Lib.Leb128

/-!
# The message decoder (`util/encoding.rs`)

`Decoder` cuts a byte stream back into the messages that were written to it,
each behind its length as a variable-length integer.  The integer encoding is
the `integer-encoding` crate's; it enters as a `VarInt`, a record of the two
functions together with what the crate documents about `decode_var`.

Arithmetic and slicing are checked, as in a build with overflow checks: where
the source would panic the model answers with a `Fault`.
-/

namespace MessageIo

/-- Bytes as they travel on a stream. -/
abbrev Bytes := List UInt8

/-- What stops a run of the decoder. -/
inductive Fault where
  /-- A subtraction of `usize` values below zero. -/
  | underflow
  /-- A slice bound past the end of the slice. -/
  | slice
deriving DecidableEq, Repr

/-! ## Checked operations on `usize` and slices -/

def checkedSub (a b : Nat) : Except Fault Nat :=
  if b ≤ a then .ok (a - b) else .error .underflow

/-- `&data[i..]` -/
def sliceFrom (data : Bytes) (i : Nat) : Except Fault Bytes :=
  if i ≤ data.length then .ok (data.drop i) else .error .slice

/-- `&data[..i]` -/
def sliceTo (data : Bytes) (i : Nat) : Except Fault Bytes :=
  if i ≤ data.length then .ok (data.take i) else .error .slice

/-- `data.split_at(i)` -/
def splitAt (data : Bytes) (i : Nat) : Except Fault (Bytes × Bytes) :=
  if i ≤ data.length then .ok (data.take i, data.drop i) else .error .slice

theorem checkedSub_of_le {a b : Nat} (h : b ≤ a) : checkedSub a b = .ok (a - b) := if_pos h

theorem checkedSub_of_lt {a b : Nat} (h : a < b) : checkedSub a b = .error .underflow :=
  if_neg (by omega)

theorem sliceFrom_of_le {data : Bytes} {i : Nat} (h : i ≤ data.length) :
    sliceFrom data i = .ok (data.drop i) := if_pos h

theorem sliceTo_of_le {data : Bytes} {i : Nat} (h : i ≤ data.length) :
    sliceTo data i = .ok (data.take i) := if_pos h

theorem splitAt_of_le {data : Bytes} {i : Nat} (h : i ≤ data.length) :
    splitAt data i = .ok (data.take i, data.drop i) := if_pos h

/-! ## Message sizes -/

/-- The most bytes a `u64` takes as a varint, `10 = ⌈64 / 7⌉`. -/
def maxEncodedSize : Nat := 10

/-- The variable-length integers of the `integer-encoding` crate, for `usize`. -/
structure VarInt where
  encodeVar : Nat → Bytes
  /-- The integer at the front of the bytes, and how many bytes it took. -/
  decodeVar : Bytes → Option (Nat × Nat)
  decodeVar_pos : ∀ {bs n u}, decodeVar bs = some (n, u) → 0 < u
  decodeVar_le : ∀ {bs n u}, decodeVar bs = some (n, u) → u ≤ bs.length
  /-- Only the bytes of the integer are looked at. -/
  decodeVar_take_append : ∀ {bs n u}, decodeVar bs = some (n, u) → ∀ more,
    decodeVar (bs.take u ++ more) = some (n, u)
  /-- No more than `maxEncodedSize` bytes are read. -/
  decodeVar_take : ∀ bs, decodeVar (bs.take maxEncodedSize) = decodeVar bs

/-- The crate's integers are LEB128: `encode_var` writes them so, `decode_var`
reads them back and answers `None` while the last byte is missing. -/
structure VarInt.IsLeb128 (V : VarInt) : Prop where
  encodeVar_eq : ∀ n < 2 ^ 64, V.encodeVar n = Leb128.encode n
  decodeVar_encode : ∀ n < 2 ^ 64, ∀ rest,
    V.decodeVar (Leb128.encode n ++ rest) = some (n, (Leb128.encode n).length)
  decodeVar_incomplete : ∀ bs : Bytes, (∀ b ∈ bs, 128 ≤ b.toNat) → V.decodeVar bs = none

/-- LEB128 itself as a `VarInt`: the value is kept to 64 bits, as shifting into a
`u64` does. -/
def VarInt.leb128 : VarInt where
  encodeVar := Leb128.encode
  decodeVar bs := (Leb128.decode maxEncodedSize bs).map fun r => (r.1 % 2 ^ 64, r.2)
  decodeVar_pos h := by
    obtain ⟨r, hr, heq⟩ := Option.map_eq_some_iff.1 h
    cases heq
    exact (Leb128.decode_used hr).1
  decodeVar_le h := by
    obtain ⟨r, hr, heq⟩ := Option.map_eq_some_iff.1 h
    cases heq
    exact (Leb128.decode_used hr).2.2
  decodeVar_take_append h more := by
    obtain ⟨r, hr, heq⟩ := Option.map_eq_some_iff.1 h
    cases heq
    rw [Leb128.decode_take_append hr more, Option.map_some]
  decodeVar_take bs := by rw [Leb128.decode_take]

theorem VarInt.leb128_isLeb128 : VarInt.leb128.IsLeb128 where
  encodeVar_eq _ _ := rfl
  decodeVar_encode n hn rest := by
    have hlt : n < 128 ^ (9 + 1) := Nat.lt_of_lt_of_le hn (by decide)
    change (Leb128.decode (9 + 1) _).map _ = _
    rw [Leb128.decode_encode 9 hlt, Option.map_some, Nat.mod_eq_of_lt hn]
  decodeVar_incomplete bs h := by
    change (Leb128.decode _ bs).map _ = none
    rw [Leb128.decode_incomplete _ h, Option.map_none]

section

variable (V : VarInt)

/-- The bytes to send before a message. -/
def encodeSize (message : Bytes) : Bytes := V.encodeVar message.length

/-- The announced message size and the bytes it was read from, or none if the
buffer is too small. -/
def decodeSize (data : Bytes) : Option (Nat × Nat) := V.decodeVar data

/-! ## The decoder -/

/-- Decodes messages from several or partial data chunks. -/
structure Decoder where
  stored : Bytes
deriving DecidableEq, Repr

namespace Decoder

/-- A new decoder holds nothing. -/
def default : Decoder := ⟨[]⟩

/-- One turn of the loop of `try_decode`: the message at the front of
`next_data` and the data behind it, if the message is all there. -/
def nextMessage (nextData : Bytes) : Except Fault (Option (Bytes × Bytes)) :=
  match decodeSize V nextData with
  | none => .ok none
  | some (expectedSize, usedBytes) => do
      let remaining ← sliceFrom nextData usedBytes
      if expectedSize ≤ remaining.length then
        let split ← splitAt remaining expectedSize
        return some split
      else
        return none

variable {V} in
theorem length_lt_of_nextMessage {nextData decoded notDecoded : Bytes}
    (h : nextMessage V nextData = .ok (some (decoded, notDecoded))) :
    notDecoded.length < nextData.length := by
  unfold nextMessage at h
  cases hs : decodeSize V nextData with
  | none => rw [hs] at h; cases h
  | some r =>
      obtain ⟨size, used⟩ := r
      have hpos := V.decodeVar_pos hs
      have hle := V.decodeVar_le hs
      rw [hs] at h
      simp only [sliceFrom_of_le hle, bind, Except.bind] at h
      split at h
      · rename_i hsize
        rw [splitAt_of_le hsize] at h
        cases h
        simp only [List.length_drop]
        omega
      · cases h

/-- Decodes straight from `data`; what is left over is stored.  The messages
are returned in the order the callback is given them. -/
def tryDecode (d : Decoder) (data : Bytes) : Except Fault (Decoder × List Bytes) :=
  match _h : nextMessage V data with
  | .error e => .error e
  | .ok none => .ok (⟨d.stored ++ data⟩, [])
  | .ok (some (decoded, notDecoded)) =>
      if notDecoded = [] then .ok (d, [decoded])
      else (tryDecode d notDecoded).map fun r => (r.1, decoded :: r.2)
termination_by data.length
decreasing_by exact length_lt_of_nextMessage _h

/-- The size of the frame under way, and the data behind what was taken to
learn it.  While the size is unknown, at most the bytes it may still need are
appended to `stored`. -/
def frameHeader (d : Decoder) (data : Bytes) :
    Except Fault (Decoder × Option ((Nat × Nat) × Bytes)) :=
  match decodeSize V d.stored with
  | some sizeInfo => .ok (d, some (sizeInfo, data))
  | none => do
      let room ← checkedSub maxEncodedSize d.stored.length
      let maxRemaining := min room data.length
      let taken ← sliceTo data maxRemaining
      let d' : Decoder := ⟨d.stored ++ taken⟩
      match decodeSize V d'.stored with
      | some x => do
          let behind ← sliceFrom data maxRemaining
          return (d', some (x, behind))
      | none => return (d', none)

/-- Adds `data` to a frame of known size; if that completes it, returns its
message and the data behind it. -/
def completeFrame (d : Decoder) (expectedSize usedBytes : Nat) (data : Bytes) :
    Except Fault (Decoder × Option (Bytes × Bytes)) := do
  let payload ← checkedSub d.stored.length usedBytes
  let remaining ← checkedSub expectedSize payload
  if data.length < remaining then
    return (⟨d.stored ++ data⟩, none)
  else
    let (toStore, rest) ← splitAt data remaining
    let message ← sliceFrom (d.stored ++ toStore) usedBytes
    return (⟨d.stored ++ toStore⟩, some (message, rest))

/-- Adds `data` to the frame under way. -/
def storeAndDecodedData (d : Decoder) (data : Bytes) :
    Except Fault (Decoder × Option (Bytes × Bytes)) := do
  match ← frameHeader V d data with
  | (d', none) => return (d', none)
  | (d', some ((expectedSize, usedBytes), behind)) =>
      completeFrame d' expectedSize usedBytes behind

/-- Takes a chunk of data; returns the messages it completes. -/
def decode (d : Decoder) (data : Bytes) : Except Fault (Decoder × List Bytes) :=
  if d.stored = [] then
    tryDecode V d data
  else do
    match ← storeAndDecodedData V d data with
    | (d', none) => return (d', [])
    | (_, some (decodedData, remaining)) =>
        let r ← tryDecode V ⟨[]⟩ remaining
        return (r.1, decodedData :: r.2)

/-- The bytes held back, padding and message bytes alike. -/
def storedSize (d : Decoder) : Nat := d.stored.length

/-- Successive calls of `decode`, with all messages they deliver. -/
def feed (d : Decoder) : List Bytes → Except Fault (Decoder × List Bytes)
  | [] => .ok (d, [])
  | chunk :: chunks => do
      let r ← decode V d chunk
      let r' ← feed r.1 chunks
      return (r'.1, r.2 ++ r'.2)

end Decoder

end

end MessageIo
