import MessageIo.Lib.Utf8
import MessageIo.Protocol.Codec

/-!
# Messages in fragments (`adapters/ws/protocol/message.rs`)

An `IncompleteMessage` collects the fragments of a message.  Text is checked while it is
collected: the decoder of another crate, `Utf8Crate`, takes what it can and hands back the
beginning of a character at the end of a fragment, which is completed with the next one.

`extend_spec` and `complete_spec` say what this comes to: the fragments are collected as long
as their bytes are the beginning of a text and not too many, and make a message if they are
a text.
-/

namespace MessageIo

namespace Ws

/-! ## The decoder of the `utf-8` crate -/

/-- What `utf8::decode` answers. -/
inductive Decoded where
  | ok (text : String)
  | incomplete (validPrefix : String) (incompleteSuffix : Bytes)
  | invalid (validPrefix : String)

/-- What `Incomplete::try_complete` answers, with the bytes that it did not use. -/
inductive Completed where
  /-- There is still too little: the incomplete bytes are these now. -/
  | unfinished (incomplete : Bytes)
  | ok (text : String) (rest : Bytes)
  | invalid (rest : Bytes)

/-- The two functions of the crate that are called. -/
structure Utf8Crate where
  decode : Bytes → Decoded
  tryComplete : Bytes → Bytes → Completed

/-- **What the crate promises.**  `decode` tells text, text that ends inside a character, and
bytes that no text begins with from each other; `try_complete` goes on after such an
end. -/
structure Utf8Crate.Lawful (u : Utf8Crate) : Prop where
  decode_ok : ∀ {b s}, u.decode b = .ok s → Utf8.encode s = b
  decode_incomplete : ∀ {b s t}, u.decode b = .incomplete s t →
    b = Utf8.encode s ++ t ∧ Utf8.Partial t
  decode_invalid : ∀ {b s}, u.decode b = .invalid s → ¬ Utf8.Viable b
  complete_unfinished : ∀ {i b i'}, Utf8.Partial i → u.tryComplete i b = .unfinished i' →
    i' = i ++ b ∧ Utf8.Partial i'
  complete_ok : ∀ {i b s rest}, Utf8.Partial i → u.tryComplete i b = .ok s rest →
    i ++ b = Utf8.encode s ++ rest
  complete_invalid : ∀ {i b rest}, Utf8.Partial i → u.tryComplete i b = .invalid rest →
    ¬ Utf8.Viable (i ++ b)

open Classical in
/-- A crate that keeps its promises. -/
noncomputable def Utf8Crate.reference : Utf8Crate where
  decode b :=
    if h : Utf8.Valid b then .ok h.choose
    else if h : Utf8.Viable b then .incomplete h.split.choose h.split.choose_spec.choose
    else .invalid ""
  tryComplete i b :=
    if Utf8.Partial (i ++ b) then .unfinished (i ++ b)
    else if h : Utf8.Viable (i ++ b) then .ok h.split.choose h.split.choose_spec.choose
    else .invalid b

theorem Utf8Crate.reference_lawful : Utf8Crate.reference.Lawful where
  decode_ok := by
    intro b s h
    simp only [reference] at h
    split at h
    · rename_i hvalid
      cases h
      exact hvalid.choose_spec
    · split at h
      · cases h
      · cases h
  decode_incomplete := by
    intro b s t h
    simp only [reference] at h
    split at h
    · cases h
    · rename_i hvalid
      split at h
      · rename_i hviable
        cases h
        obtain ⟨hbytes, hrest⟩ := hviable.split.choose_spec.choose_spec
        refine ⟨hbytes, hrest.resolve_left fun hnil ↦ hvalid ?_⟩
        rw [hnil, List.append_nil] at hbytes
        exact ⟨_, hbytes.symm⟩
      · cases h
  decode_invalid := by
    intro b s h
    simp only [reference] at h
    split at h
    · cases h
    · split at h
      · cases h
      · rename_i hviable
        exact hviable
  complete_unfinished := by
    intro i b i' _ h
    simp only [reference] at h
    split at h
    · cases h
      exact ⟨rfl, ‹_›⟩
    · split at h
      · cases h
      · cases h
  complete_ok := by
    intro i b s rest _ h
    simp only [reference] at h
    split at h
    · cases h
    · split at h
      · rename_i hviable
        cases h
        exact hviable.split.choose_spec.choose_spec.1
      · cases h
  complete_invalid := by
    intro i b rest _ h
    simp only [reference] at h
    split at h
    · cases h
    · split at h
      · cases h
      · rename_i hviable
        exact hviable

/-! ## Collecting text -/

structure StringCollector where
  data : String
  /-- The beginning of a character. -/
  incomplete : Option Bytes
deriving DecidableEq, Repr

namespace StringCollector

def new : StringCollector := ⟨"", none⟩

/-- The bytes collected; a `String` is never so long that the sum would saturate. -/
def len (c : StringCollector) : Nat := (Utf8.encode c.data).length + (c.incomplete.getD []).length

/-- The front of `extend`: an incomplete character is completed, and the rest of the input is
still to be decoded. -/
def completeFirst (u : Utf8Crate) (c : StringCollector) (input : Bytes) :
    Except Error Bytes × StringCollector :=
  match c.incomplete with
  | none => (.ok input, c)
  | some incomplete =>
      match u.tryComplete incomplete input with
      | .unfinished incomplete => (.ok [], ⟨c.data, some incomplete⟩)
      | .ok text rest => (.ok rest, ⟨c.data ++ text, none⟩)
      | .invalid _ => (.error .utf8, ⟨c.data, none⟩)

/-- The rest of `extend`: what is left of the input is decoded. -/
def decodeRest (u : Utf8Crate) (c : StringCollector) (input : Bytes) :
    Except Error Unit × StringCollector :=
  if input = [] then (.ok (), c)
  else
    match u.decode input with
    | .ok text => (.ok (), { c with data := c.data ++ text })
    | .incomplete validPrefix suffix => (.ok (), ⟨c.data ++ validPrefix, some suffix⟩)
    | .invalid validPrefix => (.error .utf8, { c with data := c.data ++ validPrefix })

def extend (u : Utf8Crate) (c : StringCollector) (tail : Bytes) :
    Except Error Unit × StringCollector :=
  match c.completeFirst u tail with
  | (.error e, c) => (.error e, c)
  | (.ok input, c) => c.decodeRest u input

def intoString (c : StringCollector) : Except Error String :=
  if c.incomplete.isSome then .error .utf8 else .ok c.data

/-- These bytes have been collected. -/
structure Collected (c : StringCollector) (b : Bytes) : Prop where
  bytes : b = Utf8.encode c.data ++ c.incomplete.getD []
  incomplete : ∀ i, c.incomplete = some i → Utf8.Partial i

variable {u : Utf8Crate} {c : StringCollector} {b : Bytes}

theorem collected_new : new.Collected [] := ⟨rfl, nofun⟩

theorem Collected.length_eq (h : c.Collected b) : c.len = b.length := by
  rw [h.bytes, List.length_append]
  rfl

theorem Collected.viable (h : c.Collected b) : Utf8.Viable b := by
  rw [h.bytes, Utf8.viable_append]
  cases hi : c.incomplete with
  | none => exact (Utf8.valid_encode "").viable
  | some i => exact (h.incomplete i hi).viable

/-- What is done with an incomplete character: either it is still one and takes all, or the
bytes collected are a text and the rest. -/
theorem completeFirst_spec (hu : u.Lawful) (h : c.Collected b) (tail : Bytes) :
    (∃ input c', c.completeFirst u tail = (.ok input, c') ∧
      (input = [] ∧ c'.Collected (b ++ tail) ∨
        c'.incomplete = none ∧ b ++ tail = Utf8.encode c'.data ++ input)) ∨
      (c.completeFirst u tail).1 = .error .utf8 ∧ ¬ Utf8.Viable (b ++ tail) := by
  rw [completeFirst]
  cases hi : c.incomplete with
  | none =>
      refine .inl ⟨tail, c, rfl, .inr ⟨hi, ?_⟩⟩
      rw [h.bytes, hi, Option.getD_none, List.append_nil]
  | some i =>
      have hpartial := h.incomplete i hi
      have hbytes : b ++ tail = Utf8.encode c.data ++ (i ++ tail) := by
        rw [h.bytes, hi, Option.getD_some, List.append_assoc]
      simp only
      cases hcomplete : u.tryComplete i tail with
      | unfinished i' =>
          obtain ⟨rfl, hpartial'⟩ := hu.complete_unfinished hpartial hcomplete
          refine .inl ⟨_, _, rfl, .inl ⟨rfl, hbytes, ?_⟩⟩
          rintro _ ⟨⟩
          exact hpartial'
      | ok text rest =>
          refine .inl ⟨_, _, rfl, .inr ⟨rfl, ?_⟩⟩
          rw [hbytes, hu.complete_ok hpartial hcomplete, Utf8.encode_append, List.append_assoc]
      | invalid rest =>
          refine .inr ⟨rfl, ?_⟩
          rw [hbytes, Utf8.viable_append]
          exact hu.complete_invalid hpartial hcomplete

/-- Behind a text, what is left of the input is collected. -/
theorem decodeRest_spec (hu : u.Lawful) (h : c.incomplete = none) (input : Bytes) :
    (∃ c', c.decodeRest u input = (.ok (), c') ∧ c'.Collected (Utf8.encode c.data ++ input)) ∨
      (c.decodeRest u input).1 = .error .utf8 ∧
        ¬ Utf8.Viable (Utf8.encode c.data ++ input) := by
  rw [decodeRest]
  by_cases hnil : input = []
  · rw [if_pos hnil, hnil]
    refine .inl ⟨c, rfl, by rw [h]; rfl, ?_⟩
    rw [h]
    exact nofun
  · rw [if_neg hnil]
    cases hdecode : u.decode input with
    | ok text =>
        refine .inl ⟨_, rfl, ?_, ?_⟩
        · rw [h, Utf8.encode_append, hu.decode_ok hdecode, Option.getD_none, List.append_nil]
        · rw [h]
          exact nofun
    | incomplete validPrefix suffix =>
        obtain ⟨rfl, hpartial⟩ := hu.decode_incomplete hdecode
        refine .inl ⟨_, rfl, ?_, ?_⟩
        · rw [Utf8.encode_append, List.append_assoc]
          rfl
        · rintro _ ⟨⟩
          exact hpartial
    | invalid validPrefix =>
        refine .inr ⟨rfl, ?_⟩
        rw [Utf8.viable_append]
        exact hu.decode_invalid hdecode

/-- **A fragment is collected** exactly if the bytes are still the beginning of a text. -/
theorem extend_spec (hu : u.Lawful) (h : c.Collected b) (tail : Bytes) :
    (∃ c', c.extend u tail = (.ok (), c') ∧ c'.Collected (b ++ tail)) ∨
      (c.extend u tail).1 = .error .utf8 ∧ ¬ Utf8.Viable (b ++ tail) := by
  rw [extend]
  rcases completeFirst_spec hu h tail with ⟨input, c', hfirst, hcases⟩ | ⟨herror, hviable⟩
  · rw [hfirst]
    rcases hcases with ⟨rfl, hcollected⟩ | ⟨hnone, hbytes⟩
    · exact .inl ⟨c', rfl, hcollected⟩
    · rw [hbytes]
      exact decodeRest_spec hu hnone input
  · refine .inr ⟨?_, hviable⟩
    generalize c.completeFirst u tail = out at herror
    obtain ⟨r, c'⟩ := out
    cases herror
    rfl

/-- **What has been collected is a text** if no character is left incomplete. -/
theorem intoString_spec (h : c.Collected b) :
    (∃ s, c.intoString = .ok s ∧ Utf8.encode s = b) ∨
      c.intoString = .error .utf8 ∧ ¬ Utf8.Valid b := by
  rw [intoString]
  cases hi : c.incomplete with
  | none =>
      refine .inl ⟨c.data, rfl, ?_⟩
      rw [h.bytes, hi, Option.getD_none, List.append_nil]
  | some i =>
      refine .inr ⟨rfl, ?_⟩
      rw [h.bytes, hi, Option.getD_some, Utf8.valid_append]
      exact (h.incomplete i hi).not_valid

end StringCollector

/-! ## Incomplete messages -/

/-- The type of incomplete message. -/
inductive IncompleteMessageType where
  | text
  | binary
deriving DecidableEq, Repr

/-- A struct representing the incomplete message, by its collector. -/
inductive IncompleteMessage where
  | text (t : StringCollector)
  | binary (buffer : Bytes)
deriving DecidableEq, Repr

namespace IncompleteMessage

/-- Create new. -/
def new : IncompleteMessageType → IncompleteMessage
  | .text => text .new
  | .binary => binary []

/-- Get the current filled size of the buffer. -/
def len : IncompleteMessage → Nat
  | text t => t.len
  | binary b => b.length

/-- Add more data to an existing message. -/
def extend (u : Utf8Crate) (m : IncompleteMessage) (tail : Bytes) (sizeLimit : Option Nat) :
    Except Error Unit × IncompleteMessage :=
  -- Always have a max size.
  let maxSize := sizeLimit.getD usizeMax
  if maxSize < m.len ∨ maxSize - m.len < tail.length then
    (.error (.messageTooLong (m.len + tail.length) maxSize), m)
  else
    match m with
    | binary buffer => (.ok (), binary (buffer ++ tail))
    | text t => ((t.extend u tail).1, text (t.extend u tail).2)

/-- Convert an incomplete message into a complete one. -/
def complete : IncompleteMessage → Except Error Message
  | binary v => .ok (.binary v)
  | text t => t.intoString.map .text

/-- A message of this type with these bytes so far. -/
inductive Collects : IncompleteMessage → IncompleteMessageType → Bytes → Prop
  | text {t : StringCollector} {b : Bytes} (h : t.Collected b) : Collects (text t) .text b
  | binary {b : Bytes} : Collects (binary b) .binary b

end IncompleteMessage

/-- **Bytes may be those of an unfinished message**: there are not too many, and text can be made
of them. -/
structure MayCollect (type : IncompleteMessageType) (limit : Nat) (b : Bytes) : Prop where
  size : b.length ≤ limit
  viable : type = .text → Utf8.Viable b

/-- **Bytes are those of a message.** -/
inductive Spells : IncompleteMessageType → Bytes → Message → Prop
  | text {s : String} {b : Bytes} (h : Utf8.encode s = b) : Spells .text b (.text s)
  | binary {b : Bytes} : Spells .binary b (.binary b)

namespace IncompleteMessage

variable {u : Utf8Crate} {m : IncompleteMessage} {type : IncompleteMessageType} {b : Bytes}

theorem collects_new (type : IncompleteMessageType) : (new type).Collects type [] := by
  cases type with
  | text => exact .text StringCollector.collected_new
  | binary => exact .binary

theorem Collects.len_eq (h : m.Collects type b) : m.len = b.length := by
  cases h with
  | text h => exact h.length_eq
  | binary => rfl

/-- **A fragment is added** exactly if the bytes may still be those of a message. -/
theorem extend_spec (hu : u.Lawful) (h : m.Collects type b) (tail : Bytes) (limit : Option Nat) :
    (∃ m', m.extend u tail limit = (.ok (), m') ∧ m'.Collects type (b ++ tail) ∧
        MayCollect type (limit.getD usizeMax) (b ++ tail)) ∨
      (∃ e, (m.extend u tail limit).1 = .error e) ∧
        ¬ MayCollect type (limit.getD usizeMax) (b ++ tail) := by
  rw [extend.eq_def, h.len_eq]
  by_cases hsize : limit.getD usizeMax < b.length ∨ limit.getD usizeMax - b.length < tail.length
  · refine .inr ⟨?_, fun hmay ↦ ?_⟩
    · simp only [if_pos hsize]
      exact ⟨_, rfl⟩
    · have hle := hmay.size
      rw [List.length_append] at hle
      omega
  · have hle : (b ++ tail).length ≤ limit.getD usizeMax := by
      rw [List.length_append]
      omega
    simp only [if_neg hsize]
    cases h with
    | binary => exact .inl ⟨_, rfl, .binary, hle, nofun⟩
    | text h =>
        rcases StringCollector.extend_spec hu h tail with ⟨t', ht', hcollected⟩ | ⟨herror, hviable⟩
        · refine .inl
            ⟨text t', by simp only [ht'], .text hcollected, hle, fun _ ↦ hcollected.viable⟩
        · exact .inr ⟨⟨.utf8, herror⟩, fun hmay ↦ hviable (hmay.viable rfl)⟩

/-- **A message is complete** exactly if its bytes spell one. -/
theorem complete_spec (h : m.Collects type b) :
    (∃ message, m.complete = .ok message ∧ Spells type b message) ∨
      (∃ e, m.complete = .error e) ∧ ∀ message, ¬ Spells type b message := by
  cases h with
  | binary => exact .inl ⟨_, rfl, .binary⟩
  | text h =>
      rw [complete]
      rcases StringCollector.intoString_spec h with ⟨s, hs, hb⟩ | ⟨herror, hvalid⟩
      · exact .inl ⟨.text s, by rw [hs]; rfl, .text hb⟩
      · refine .inr ⟨⟨.utf8, by rw [herror]; rfl⟩, ?_⟩
        rintro _ ⟨hs⟩
        exact hvalid ⟨_, hs⟩

end IncompleteMessage

/-- The bytes of a message are the bytes of one message only. -/
theorem Spells.unique {type : IncompleteMessageType} {b : Bytes} {m m' : Message}
    (h : Spells type b m) (h' : Spells type b m') : m = m' := by
  cases h with
  | text h =>
      cases h' with
      | text h' => rw [Utf8.encode_injective (h.trans h'.symm)]
  | binary =>
      cases h'
      rfl

end Ws

end MessageIo
