import Mathlib.Logic.Function.Basic
import MessageIo.Protocol.Saying

/-!
# Two sides of a connection

A client and a server call their ends of a connection in any order, and each of the two streams
gives to one side what the other has written: in pieces of any size, as late as it likes.  A stream
takes as many bytes of a write as it likes, and a read or a write may fail at any time.  The first
of the bytes may have come with the head of the handshake.

Each side keeps a journal of its calls.  In every state that is reached

* what a side has heard keeps the order of what the other was asked to say, and nothing of it is
  missing or comes twice (`heard_in_order`);
* no side finds a fault with the other, but that a pong comes behind its Close frame
  (`nobody_is_blamed`);
* every pong and every Close that is heard has a cause (`nothing_from_nowhere`).
-/

namespace MessageIo

namespace Ws

open Transition

/-- The other side. -/
def Role.other : Role → Role
  | .server => .client
  | .client => .server

theorem Role.other_other (r : Role) : r.other.other = r := by
  cases r with
  | server => rfl
  | client => rfl

theorem Role.other_ne (r : Role) : r.other ≠ r := by
  cases r with
  | server => rintro ⟨⟩
  | client => rintro ⟨⟩

theorem Role.eq_or_other (r s : Role) : s = r ∨ s = r.other := by
  cases r with
  | server =>
      cases s with
      | server => exact .inl rfl
      | client => exact .inr rfl
  | client =>
      cases s with
      | server => exact .inr rfl
      | client => exact .inl rfl

namespace WebSocket

/-! ## A dialogue -/

/-- The message that a call has returned. -/
def gained : Except Error (Option Message) → Option Message
  | .ok m => m
  | .error _ => none

/-- Calls, and how they have ended. -/
abbrev Journal := List (Call × Except Error (Option Message))

namespace Journal

/-- The messages that calls of `read` have returned. -/
def heard (j : Journal) : List Message := j.filterMap fun entry ↦ gained entry.2

/-- The messages that have been written, and not refused. -/
def wrote (j : Journal) : List Message := j.filterMap fun entry ↦ accepted entry.1 entry.2

/-- What has been asked for. -/
def calls (j : Journal) : List Call := j.map Prod.fst

variable (j j' : Journal) (c : Call) (r : Except Error (Option Message))

theorem heard_concat : heard (j ++ [(c, r)]) = j.heard ++ (gained r).toList := by
  rw [heard, List.filterMap_append, List.filterMap_cons]
  cases gained r with
  | none => rfl
  | some m => rfl

theorem wrote_concat : wrote (j ++ [(c, r)]) = j.wrote ++ (accepted c r).toList := by
  rw [wrote, List.filterMap_append, List.filterMap_cons]
  cases accepted c r with
  | none => rfl
  | some m => rfl

variable {j j' c r}

theorem mem_calls (h : j <+: j') (hc : c ∈ j.calls) : c ∈ j'.calls :=
  (h.map Prod.fst).subset hc

theorem mem_calls_concat : c ∈ Journal.calls (j ++ [(c, r)]) :=
  List.mem_map_of_mem (List.mem_append_right _ List.mem_cons_self)

theorem mem_heard {m : Message} (h : j <+: j') (hm : m ∈ j.heard) : m ∈ j'.heard :=
  (h.filterMap _).subset hm

/-- Who has written a message was asked to. -/
theorem mem_calls_of_wrote {m : Message} (h : m ∈ j.wrote) : .write m ∈ j.calls := by
  obtain ⟨⟨c, r⟩, hentry, haccepted⟩ := List.mem_filterMap.1 h
  have hc : c = .write m := by
    cases c with
    | write m' =>
        have hm : (if isRefusal r then none else some m') = some m := haccepted
        split at hm
        · cases hm
        · cases hm
          rfl
    | read => cases haccepted
    | flush => cases haccepted
    | close code => cases haccepted
  exact hc ▸ List.mem_map_of_mem hentry

end Journal

/-- A side of a connection. -/
structure Party where
  socket : WebSocket
  /-- So many bytes have been taken from the stream. -/
  taken : Nat
  journal : Journal

/-- Both sides. -/
abbrev Dialogue := Role → Party

namespace Dialogue

/-- What the other side has written and this one has not taken yet. -/
def onWay (d : Dialogue) (r : Role) : Bytes :=
  (d r.other).socket.socket.written.drop (d r).taken

/-- A side after a call. -/
def performed (u : Utf8Crate) (p : Party) (c : Call) (answers : Answers) : Party :=
  let out := p.socket.perform u (c, answers)
  let left := FrameCodec.given out.2.socket.answers.reads
  ⟨out.2, p.taken + ((FrameCodec.given answers.reads).length - left.length),
    p.journal ++ [(c, out.1)]⟩

/-- A side takes over what its handshake has received behind the head. -/
def joined (p : Party) (part : Bytes) : Party :=
  ⟨p.socket.fed part, p.taken + part.length, p.journal⟩

/-- What a side does: it performs a call, or joins. -/
inductive Act where
  | call (c : Call) (answers : Answers)
  | joins (part : Bytes)

/-- A side acts. -/
def acts (u : Utf8Crate) (p : Party) : Act → Party
  | .call c answers => performed u p c answers
  | .joins part => joined p part

def step (u : Utf8Crate) (d : Dialogue) (a : Role × Act) : Option Dialogue :=
  some (Function.update d a.1 (acts u (d a.1) a.2))

/-- A side may be asked for a call on a stream that gives what is on its way; before its first call
it may join. -/
inductive Allowed (d : Dialogue) : Role × Act → Prop
  | call {r : Role} {c : Call} {answers : Answers} (polite : Polite c)
      (reads : FrameCodec.given answers.reads <+: d.onWay r) : Allowed d (r, .call c answers)
  | joins {r : Role} {part : Bytes} (new : (d r).journal = []) (hpart : part <+: d.onWay r) :
      Allowed d (r, .joins part)

/-- Two new sides, which accept messages of the sizes that are the default. -/
structure Opened (d : Dialogue) : Prop where
  new : ∀ r, ∃ answers config, fromPartiallyRead (.new answers) [] r config = .ok (d r).socket ∧
    (config.getD .default).Limits
  taken : ∀ r, (d r).taken = 0
  journal : ∀ r, (d r).journal = []

/-! ## What a side has heard -/

variable {u : Utf8Crate} {w w' w₁ : WebSocket} {heard : List Message} {tail : Bytes}
variable {r : Role} {read skipped rest : List (Message × Frame)}

/-- Something has been said behind a Close frame. -/
def Overtalked (said : List (Message × Frame)) : Prop :=
  ∃ front x back, said = front ++ x :: back ∧ x.2.isClose = true ∧ back ≠ []

/-- What a side returns as an error is fair, or the other has said something behind its Close
frame. -/
def Blameless (said : List (Message × Frame)) (r : Except Error (Option Message)) : Prop :=
  ∀ e, r = .error e → e.Fair ∨ e = .protocol .receivedAfterClosing ∧ Overtalked said

theorem Overtalked.append {said : List (Message × Frame)} (h : Overtalked said)
    (more : List (Message × Frame)) : Overtalked (said ++ more) := by
  obtain ⟨front, x, back, rfl, hclose, hback⟩ := h
  refine ⟨front, x, back ++ more, List.append_assoc _ _ _, hclose, ?_⟩
  exact fun hnil ↦ hback (List.append_eq_nil_iff.1 hnil).1

theorem Blameless.append {said : List (Message × Frame)} {r : Except Error (Option Message)}
    (h : Blameless said r) (more : List (Message × Frame)) : Blameless (said ++ more) r :=
  fun e he ↦ (h e he).imp_right fun hover ↦ ⟨hover.1, hover.2.append more⟩

/-- **What a side has heard**: what was said up to `read`; what is `skipped` came behind a Close
frame, and the `rest` is still coming. -/
structure Hearing (w : WebSocket) (heard : List Message) (tail : Bytes)
    (read skipped rest : List (Message × Frame)) : Prop where
  heard : List.Forall₂ (fun x m ↦ Hears x.1 m) read heard
  coming : w.context.frame.Coming tail (rest.map Prod.snd)
  canRead : w.context.state.canRead = true → skipped = [] ∧ ∀ x ∈ read, x.2.isClose = false
  closed : peerClosed w.context.state = true → ∃ x ∈ read, x.2.isClose = true
  skips : skipped ≠ [] → ∃ x ∈ read, x.2.isClose = true
  last : ∀ x ∈ read.dropLast, x.2.isClose = false
  limits : w.context.config.Limits
  incomplete : w.context.incomplete = none

/-- What a side has not taken yet may get longer. -/
theorem Hearing.append (h : Hearing w heard tail read skipped rest)
    (more : List (Message × Frame)) :
    Hearing w heard (tail ++ (more.map Prod.snd).flatMap Frame.format) read skipped
      (rest ++ more) := by
  refine ⟨h.heard, ?_, h.canRead, h.closed, h.skips, h.last, h.limits, h.incomplete⟩
  rw [List.map_append]
  exact h.coming.append _

theorem peerClosed_iff {state : WebSocketState} :
    peerClosed state = true ↔ state.canRead = false ∧ state ≠ .terminated := by
  cases state with
  | active => exact ⟨by rintro ⟨⟩, by rintro ⟨⟨⟩, -⟩⟩
  | closedByUs => exact ⟨by rintro ⟨⟩, by rintro ⟨⟨⟩, -⟩⟩
  | closedByPeer => exact ⟨fun _ ↦ ⟨rfl, by rintro ⟨⟩⟩, fun _ ↦ rfl⟩
  | closeAcknowledged => exact ⟨fun _ ↦ ⟨rfl, by rintro ⟨⟩⟩, fun _ ↦ rfl⟩
  | terminated => exact ⟨by rintro ⟨⟩, fun h ↦ absurd rfl h.2⟩

/-- What is coming has been received before it is read. -/
theorem Hearing.fed {data : Bytes} (h : Hearing w heard (data ++ tail) read skipped rest) :
    Hearing (w.fed data) heard tail read skipped rest :=
  ⟨h.heard, h.coming.fed, h.canRead, h.closed, h.skips, h.last, h.limits, h.incomplete⟩

/-- Nothing is heard, and the state stays or the connection ends. -/
theorem Hearing.same (h : Hearing w heard tail read skipped rest) {tail' : Bytes}
    (hcoming : w'.context.frame.Coming tail' (rest.map Prod.snd))
    (hconfig : w'.context.config = w.context.config)
    (hincomplete : w'.context.incomplete = w.context.incomplete)
    (hread : w'.context.state.canRead = true → w.context.state.canRead = true)
    (hclosed : peerClosed w'.context.state = true → peerClosed w.context.state = true) :
    Hearing w' heard tail' read skipped rest := by
  refine ⟨h.heard, hcoming, fun hr ↦ h.canRead (hread hr), fun hc ↦ h.closed (hclosed hc), h.skips,
    h.last, ?_, hincomplete.trans h.incomplete⟩
  rw [hconfig]
  exact h.limits

theorem Hearing.flushed (h : Hearing w heard tail read skipped rest) (hw : Flushed w w₁) :
    Hearing w₁ heard tail read skipped rest := by
  refine h.same (h.coming.sameInput ⟨?_, ?_⟩) ?_ ?_ hw.canRead hw.peerClosed
  · exact congrArg Input.inBuffer hw.input
  · exact congrArg Input.header hw.input
  · exact congrArg Input.config hw.input
  · exact congrArg Input.incomplete hw.input

/-- **The next message is heard.** -/
theorem Hearing.takes {x : Message × Frame} {m : Message} {peer : Role} {tail' : Bytes}
    (h : Hearing w heard tail read skipped (x :: rest)) (hread : w.context.state.canRead = true)
    (hspoken : Says peer x.1 x.2) (hhears : Hears x.1 m) (hheeds : Heeds w.received m w')
    (hcoming : w'.context.frame.Coming tail' (rest.map Prod.snd)) :
    Hearing w' (heard ++ [m]) tail' (read ++ [x]) skipped rest := by
  obtain ⟨hconfig, hincomplete, hstate⟩ := hheeds.context
  obtain ⟨hskipped, hopen⟩ := h.canRead hread
  have hclose := hspoken.isClose_heard hhears
  refine ⟨?_, hcoming, ?_, ?_, fun hskips ↦ absurd hskipped hskips, ?_, ?_,
    hincomplete.trans h.incomplete⟩
  · exact List.rel_append h.heard (.cons hhears .nil)
  · intro hread'
    rcases hstate with ⟨-, hm⟩ | ⟨hno, -⟩
    · refine ⟨hskipped, List.forall_mem_append.2 ⟨hopen, ?_⟩⟩
      rw [List.forall_mem_singleton, ← Bool.not_eq_true, hclose]
      rintro ⟨c, hc⟩
      exact hm c hc
    · cases hno.symm.trans hread'
  · intro hclosed
    rcases hstate with ⟨hsame, -⟩ | ⟨-, hm⟩
    · rw [hsame] at hclosed
      cases hread.symm.trans (peerClosed_iff.1 hclosed).1
    · exact ⟨x, List.mem_append_right _ List.mem_cons_self, hclose.2 hm⟩
  · rw [List.dropLast_concat]
    exact hopen
  · rw [hconfig]
    exact h.limits

/-- **What a call of `read` hears.** -/
theorem Hearing.readsOn {peer : Role} {a : Except Error Message}
    (h : Hearing w heard (FrameCodec.given w.socket.answers.reads ++ tail) read skipped rest)
    (hspoken : ∀ x ∈ rest, Says peer x.1 x.2) (hw : Flushed w w₁) (hr : ReadsOn tail rest w₁ a w')
    (hend : w.context.state = .terminated → a = .error .alreadyClosed) :
    ∃ read' skipped' rest', read ++ skipped ++ rest = read' ++ skipped' ++ rest' ∧
      Hearing w' (heard ++ (gained (a.map some)).toList)
        (FrameCodec.given w'.socket.answers.reads ++ tail) read' skipped' rest' ∧
      Blameless (read ++ skipped ++ rest) (a.map some) := by
  have hfair : ∀ {e : Error}, e.Fair →
      Blameless (read ++ skipped ++ rest) ((Except.error e : Except Error Message).map some) := by
    rintro e he _ ⟨⟩
    exact .inl he
  have hnone : ∀ {e : Error},
      heard ++ (gained ((Except.error e : Except Error Message).map some)).toList = heard :=
    List.append_nil _
  have hflushed := h.flushed hw
  cases hr with
  | stops he =>
      refine ⟨read, skipped, rest, rfl, ?_, hfair he⟩
      rw [hnone, show w'.socket.answers.reads = w.socket.answers.reads from
        congrArg Input.reads hw.input]
      exact hflushed
  | waits he hw' hcoming =>
      refine ⟨read, skipped, rest, rfl, ?_, hfair he⟩
      rw [hnone]
      rcases hw' with rfl | ⟨rfl, -⟩
      · exact hflushed.same hcoming rfl rfl id id
      · exact hflushed.same hcoming rfl rfl (by rintro ⟨⟩) (by rintro ⟨⟩)
  | @refuses x rest hx hread hcoming =>
      -- It is in a state in which it has heard a Close frame.
      subst hx
      have hclosed : peerClosed w.context.state = true := by
        refine peerClosed_iff.2 ⟨?_, fun hstate ↦ by cases hend hstate⟩
        rcases hw.state with hstate | ⟨-, hno⟩
        · rwa [← hstate]
        · exact hno
      obtain ⟨y, hy, hclose⟩ := h.closed hclosed
      have hsplit : read ++ skipped ++ x :: rest = read ++ (skipped ++ [x]) ++ rest := by simp
      refine ⟨read, skipped ++ [x], rest, hsplit, ?_, ?_⟩
      · rw [hnone]
        refine ⟨h.heard, hcoming, ?_, hflushed.closed, fun _ ↦ ⟨y, hy, hclose⟩, h.last,
          hflushed.limits, hflushed.incomplete⟩
        intro hread'
        cases hread.symm.trans hread'
      · rintro _ ⟨⟩
        refine .inr ⟨rfl, ?_⟩
        obtain ⟨front, back, rfl⟩ := List.append_of_mem hy
        refine ⟨front, y, back ++ skipped ++ x :: rest, by simp, hclose, ?_⟩
        exact List.append_ne_nil_of_right_ne_nil _ (List.cons_ne_nil _ _)
  | @takes x rest m _ hx hread hhears hheeds hcoming =>
      subst hx
      obtain ⟨rfl, -⟩ := hflushed.canRead hread
      refine ⟨read ++ [x], [], rest, by simp, ?_, by rintro _ ⟨⟩⟩
      exact hflushed.takes hread (hspoken x List.mem_cons_self) hhears hheeds hcoming

/-! ## The invariant -/

variable {p p' q q' : Party} {said answer : List (Message × Frame)}

/-- **A message has a cause**: a pong has been asked for, or it answers a ping; a Close frame has
come of a command that one of the sides was given. -/
def Cause (p q : Party) : Message → Prop
  | .pong b => .write (.pong b) ∈ p.journal.calls ∨ .ping b ∈ p.journal.heard
  | .close (some c) => ∃ c₀ call, Closes (some c₀) call ∧
      (call ∈ p.journal.calls ∨ call ∈ q.journal.calls) ∧ c₀.Echoes c
  | _ => True

theorem Cause.mono {m : Message} (hp : p.journal <+: p'.journal) (hq : q.journal <+: q'.journal)
    (h : Cause p q m) : Cause p' q' m := by
  cases m with
  | pong b => exact h.imp (Journal.mem_calls hp) (Journal.mem_heard hp)
  | close code =>
      cases code with
      | none => trivial
      | some c =>
          obtain ⟨c₀, call, hcloses, hcall, hc⟩ := h
          exact ⟨c₀, call, hcloses, hcall.imp (Journal.mem_calls hp) (Journal.mem_calls hq), hc⟩
  | text s => trivial
  | binary b => trivial
  | ping b => trivial
  | frame f => trivial

/-- A Close that is heard has come of a command. -/
theorem Cause.close {m : Message} {c : Option CloseFrame} (h : Cause q p m)
    (hhears : Hears m (.close c)) :
    ∃ c₀ call, Closes (some c₀) call ∧ (call ∈ p.journal.calls ∨ call ∈ q.journal.calls) ∧
      (c = some c₀.onWire ∨ c = some c₀.onWire.checked) := by
  obtain ⟨c₁, rfl⟩ : ∃ c₁, m = .close (some c₁) := by
    cases hhears with
    | message hm => exact absurd rfl (hm c)
    | close => exact ⟨_, rfl⟩
    | checked => exact ⟨_, rfl⟩
  obtain ⟨c₀, call, hcloses, hcall, hc⟩ := h
  obtain ⟨c', hm, hc'⟩ := hhears.echoes hc
  cases hm
  exact ⟨c₀, call, hcloses, hcall.symm, hc'.imp (congrArg some) (congrArg some)⟩

/-- **A side of a dialogue**, which has said so much to what the other has said in answer. -/
structure Follows (r : Role) (p q : Party) (said answer : List (Message × Frame)) : Prop where
  speech : Speech r (Cause p q) p.socket said
  wrote : (said.map Prod.fst).filter Message.ordered = p.journal.wrote.filter Message.ordered
  hearing : ∃ read skipped rest, answer = read ++ skipped ++ rest ∧
    Hearing p.socket p.journal.heard (q.socket.output.drop p.taken) read skipped rest
  blames : ∀ entry ∈ p.journal, Blameless answer entry.2
  taken : p.taken ≤ q.socket.output.length

/-- **The other side acts.** -/
theorem Follows.answered {s : Role} {more : List (Message × Frame)}
    (h : Follows r p q said answer) (hq : Follows s q p answer said)
    (hq' : Speech s (Cause q' p) q'.socket (answer ++ more)) (hj : q.journal <+: q'.journal) :
    Follows r p q' said (answer ++ more) := by
  have houtput : q'.socket.output =
      q.socket.output ++ (more.map Prod.snd).flatMap Frame.format := by
    rw [hq'.output, hq.speech.output, List.map_append, List.flatMap_append]
  refine ⟨h.speech.mono fun _ ↦ Cause.mono (List.prefix_refl _) hj, h.wrote, ?_, ?_, ?_⟩
  · obtain ⟨read, skipped, rest, rfl, hhearing⟩ := h.hearing
    refine ⟨read, skipped, rest ++ more, List.append_assoc _ _ _, ?_⟩
    rw [houtput, List.drop_append_of_le_length h.taken]
    exact hhearing.append more
  · exact fun entry hentry ↦ (h.blames entry hentry).append more
  · rw [houtput, List.length_append]
    exact h.taken.trans (Nat.le_add_right _ _)

/-- What is blamed behind one more call. -/
theorem blames_concat {j : Journal} {c : Call} {a : Except Error (Option Message)}
    (h : ∀ entry ∈ j, Blameless answer entry.2) (ha : Blameless answer a) :
    ∀ entry ∈ j ++ [(c, a)], Blameless answer entry.2 :=
  List.forall_mem_append.2 ⟨h, (List.forall_mem_singleton).2 ha⟩

/-- **A side says something**, or flushes. -/
theorem Follows.talks {c : Call} {answers : Answers} {a : Except Error (Option Message)}
    (h : Follows r p q said answer)
    (hadds : Adds r (Cause ⟨w', p.taken, p.journal ++ [(c, a)]⟩ q) said (p.socket.answered answers)
      (accepted c a).toList w') (hmute : Mute a) (hnone : ∀ m, a ≠ .ok (some m)) :
    ∃ more, Follows r ⟨w', p.taken, p.journal ++ [(c, a)]⟩ q (said ++ more) answer := by
  obtain ⟨more, hspeech, hmore⟩ := hadds.speech
  have hgained : gained a = none := by
    cases a with
    | error e => rfl
    | ok m =>
        cases m with
        | none => rfl
        | some m => exact absurd rfl (hnone m)
  refine ⟨more, hspeech, ?_, ?_, blames_concat h.blames fun e he ↦ .inl (hmute e he), h.taken⟩
  · rw [List.map_append, List.filter_append, h.wrote, hmore, ← List.filter_append]
    exact congrArg _ (Journal.wrote_concat _ _ _).symm
  · obtain ⟨read, skipped, rest, hanswer, hhearing⟩ := h.hearing
    refine ⟨read, skipped, rest, hanswer, ?_⟩
    show Hearing w' (Journal.heard (p.journal ++ [(c, a)])) _ read skipped rest
    rw [Journal.heard_concat, hgained, Option.toList_none, List.append_nil]
    refine hhearing.same (hhearing.coming.sameInput ⟨?_, ?_⟩) ?_ ?_ hadds.canRead hadds.peerClosed
    · exact congrArg Input.inBuffer hadds.input
    · exact congrArg Input.header hadds.input
    · exact congrArg Input.config hadds.input
    · exact congrArg Input.incomplete hadds.input

/-- What a side has heard does not depend on the answers to come. -/
theorem Hearing.answered (h : Hearing w heard tail read skipped rest) (answers : Answers) :
    Hearing (w.answered answers) heard tail read skipped rest :=
  h.same h.coming rfl rfl id id

/-- **A side listens**: it takes the bytes that it has `used` from the front of what the other has
put out. -/
structure Listens (p q : Party) (answer : List (Message × Frame)) (answers : Answers)
    (a : Except Error Message) (w' : WebSocket) (used tail : Bytes)
    (read skipped rest : List (Message × Frame)) : Prop where
  coming : q.socket.output.drop p.taken = FrameCodec.given answers.reads ++ tail
  taken : FrameCodec.given answers.reads = used ++ FrameCodec.given w'.socket.answers.reads
  parts : answer = read ++ skipped ++ rest
  hearing : Hearing (p.socket.answered answers) p.journal.heard
    (FrameCodec.given answers.reads ++ tail) read skipped rest
  reads : ∃ w₁, Flushed (p.socket.answered answers) w₁ ∧ ReadsOn tail rest w₁ a w'
  ended : p.socket.context.state = .terminated → a = .error .alreadyClosed

theorem Follows.listens (hu : u.Lawful) {answers : Answers} (h : Follows r p q said answer)
    (hq : Follows r.other q p answer said)
    (hreads : FrameCodec.given answers.reads <+: q.socket.socket.written.drop p.taken) :
    ∃ used tail read skipped rest, Listens p q answer answers
      ((WebSocket.read u).attempt (p.socket.answered answers)).1
      ((WebSocket.read u).attempt (p.socket.answered answers)).2 used tail read skipped rest := by
  obtain ⟨tail, htail⟩ : ∃ tail,
      q.socket.output.drop p.taken = FrameCodec.given answers.reads ++ tail := by
    obtain ⟨tail, htail⟩ := hreads
    refine ⟨tail ++ q.socket.context.frame.outBuffer.drop
      (p.taken - q.socket.socket.written.length), ?_⟩
    rw [WebSocket.output, List.drop_append, ← htail, List.append_assoc]
  obtain ⟨read, skipped, rest, hanswer, hhearing⟩ := h.hearing
  rw [htail] at hhearing
  have hhearing' := hhearing.answered answers
  have hrole : (p.socket.answered answers).context.role ≠ r.other := by
    rw [show (p.socket.answered answers).context.role = r from h.speech.role]
    exact r.other_ne.symm
  have hspoken : ∀ x ∈ rest, Says r.other x.1 x.2 := by
    intro x hx
    rw [hanswer] at hq
    exact (hq.speech.spoken x (List.mem_append_right _ hx)).1
  obtain ⟨w₁, hw, hr, ⟨used, hused⟩, hend⟩ := ensures_readsOn hu hspoken hrole hhearing'.limits
    (fun _ ↦ hhearing'.incomplete) hhearing'.coming
  exact ⟨used, tail, read, skipped, rest, htail, hused, hanswer, hhearing', ⟨w₁, hw, hr⟩, hend⟩

/-- What has not been taken yet. -/
theorem Listens.left {answers : Answers} {a : Except Error Message} {used : Bytes}
    (h : Listens p q answer answers a w' used tail read skipped rest) :
    q.socket.output.drop (p.taken + used.length) =
      FrameCodec.given w'.socket.answers.reads ++ tail := by
  rw [← List.drop_drop, h.coming, h.taken, List.append_assoc, List.drop_left]

/-- What a side has heard goes into its journal. -/
theorem Follows.hears {answers : Answers} {a : Except Error Message} {used : Bytes}
    (h : Follows r p q said answer) (hq : Follows r.other q p answer said)
    (hl : Listens p q answer answers a w' used tail read skipped rest) :
    ∃ more, Follows r ⟨w', p.taken + used.length, p.journal ++ [(.read, a.map some)]⟩ q
      (said ++ more) answer := by
  have hleft := hl.left
  obtain ⟨htail, hused, hanswer, hhearing, ⟨w₁, hw, hr⟩, hend⟩ := hl
  have hrest : ∀ x ∈ rest, Says r.other x.1 x.2 ∧ Cause q p x.1 := by
    intro x hx
    rw [hanswer] at hq
    exact hq.speech.spoken x (List.mem_append_right _ hx)
  let p' : Party := ⟨w', p.taken + used.length, p.journal ++ [(.read, a.map some)]⟩
  have hgrows : p.journal <+: p'.journal := List.prefix_append _ _
  obtain ⟨read', skipped', rest', hsplit, hhearing', hblameless⟩ :=
    hhearing.readsOn (fun x hx ↦ (hrest x hx).1) hw hr hend
  rw [← hanswer] at hsplit hblameless
  have hanswered : Speech r (Cause p' q) (p.socket.answered answers) said :=
    (h.speech.mono fun _ ↦ Cause.mono hgrows (List.prefix_refl _)).answered answers
  have hping : ∀ b, a = .ok (.ping b) → Cause p' q (.pong b) := by
    rintro b rfl
    refine .inr ?_
    show _ ∈ Journal.heard (p.journal ++ [(.read, .ok (some (.ping b)))])
    rw [Journal.heard_concat]
    exact List.mem_append_right _ List.mem_cons_self
  have hclose : ∀ x ∈ rest, ∀ c, Hears x.1 (.close c) → Cause p' q (.close c) := by
    intro x hx c hhears
    obtain ⟨c₀, call, hcloses, hcall, hc⟩ := (hrest x hx).2.close hhears
    have hcall' := hcall.imp_left (Journal.mem_calls hgrows)
    rcases hc with rfl | rfl
    · exact ⟨c₀, call, hcloses, hcall', .onWire⟩
    · exact ⟨c₀, call, hcloses, hcall', .checked⟩
  obtain ⟨more, hspeech, hmore⟩ := hanswered.readsOn hw hr hping hclose
  refine ⟨more, hspeech, ?_, ⟨read', skipped', rest', hsplit, ?_⟩,
    blames_concat h.blames hblameless, ?_⟩
  · rw [List.map_append, List.filter_append, h.wrote, hmore, List.append_nil]
    refine congrArg _ ?_
    show _ = Journal.wrote (p.journal ++ [(.read, a.map some)])
    rw [Journal.wrote_concat]
    exact (List.append_nil _).symm
  · show Hearing w' (Journal.heard (p.journal ++ [(.read, a.map some)])) (q.socket.output.drop _)
      read' skipped' rest'
    rw [Journal.heard_concat, hleft]
    exact hhearing'
  · have hlength := congrArg List.length htail
    rw [hused, List.length_drop, List.length_append, List.length_append] at hlength
    show p.taken + used.length ≤ q.socket.output.length
    have htaken := h.taken
    omega

theorem attempt_call_read (w : WebSocket) :
    (call u .read).attempt w = (((WebSocket.read u).attempt w).1.map some,
      ((WebSocket.read u).attempt w).2) := by
  show EStateM.attempt (WebSocket.read u >>= fun m ↦ Pure.pure (some m)) w = _
  generalize hout : (WebSocket.read u).attempt w = out
  obtain ⟨a, w'⟩ := out
  cases a with
  | ok m => exact EStateM.attempt_bind_ok hout
  | error e => exact EStateM.attempt_bind_error hout

/-- The error of a call of `read`. -/
theorem error_of_call {e : Error} (h : ((call u .read).attempt w).1 = .error e) :
    ((WebSocket.read u).attempt w).1 = .error e := by
  rw [attempt_call_read] at h
  generalize ((WebSocket.read u).attempt w).1 = a at h
  cases a with
  | ok m => cases h
  | error e' =>
      cases h
      rfl

theorem performed_eq {c : Call} {answers : Answers} {a : Except Error (Option Message)}
    {used : Bytes} (h : (call u c).attempt (p.socket.answered answers) = (a, w'))
    (hused : FrameCodec.given answers.reads = used ++ FrameCodec.given w'.socket.answers.reads) :
    performed u p c answers = ⟨w', p.taken + used.length, p.journal ++ [(c, a)]⟩ := by
  have hperform : p.socket.perform u (c, answers) = (a, w') := h
  rw [performed, hperform, hused, List.length_append, Nat.add_sub_cancel]

/-- **A side performs a call.** -/
theorem Follows.performs (hu : u.Lawful) {c : Call} {answers : Answers}
    (h : Follows r p q said answer) (hq : Follows r.other q p answer said) (hc : Polite c)
    (hreads : FrameCodec.given answers.reads <+: q.socket.socket.written.drop p.taken) :
    ∃ more, Follows r (performed u p c answers) q (said ++ more) answer := by
  by_cases hread : c = .read
  · subst hread
    obtain ⟨used, tail, read, skipped, rest, hl⟩ := h.listens hu hq hreads
    have hperformed : performed u p .read answers = _ := performed_eq (attempt_call_read _) hl.taken
    rw [hperformed]
    exact h.hears hq hl
  · have hgrows : p.journal <+: (performed u p c answers).journal := List.prefix_append _ _
    have hasked : c ∈ (performed u p c answers).journal.calls := Journal.mem_calls_concat
    have hspeech : Speech r (Cause (performed u p c answers) q) (p.socket.answered answers) said :=
      (h.speech.mono fun _ ↦ Cause.mono hgrows (List.prefix_refl _)).answered answers
    have hordered : ∀ m, m.ordered = true → Cause (performed u p c answers) q m := by
      intro m hm
      cases m with
      | text s => trivial
      | binary b => trivial
      | ping b => trivial
      | pong b => cases hm
      | close code => cases hm
      | frame f => trivial
    have hpong : ∀ b, c = .write (.pong b) → Cause (performed u p c answers) q (.pong b) := by
      rintro b rfl
      exact .inl hasked
    have hclose : ∀ code, Closes code c → ∀ c' ∈ code,
        Cause (performed u p c answers) q (.close (some c')) := by
      rintro _ hcloses c' rfl
      exact ⟨c', c, hcloses, .inl hasked, .same⟩
    obtain ⟨hadds, hmute, hnone⟩ := hspeech.ensures_call (u := u) hc hread hordered hpong hclose
    have hreads : FrameCodec.given answers.reads = [] ++ FrameCodec.given
        ((call u c).attempt (p.socket.answered answers)).2.socket.answers.reads :=
      congrArg FrameCodec.given (congrArg Input.reads hadds.input).symm
    rw [performed_eq rfl hreads] at hadds ⊢
    exact h.talks hadds hmute hnone

/-- **A side joins.** -/
theorem Follows.joins (h : Follows r p q said answer) {part : Bytes}
    (hpart : part <+: q.socket.socket.written.drop p.taken) :
    Follows r (joined p part) q said answer := by
  obtain ⟨tail, htail⟩ := hpart.trans (List.prefix_append (q.socket.socket.written.drop p.taken)
    (q.socket.context.frame.outBuffer.drop (p.taken - q.socket.socket.written.length)))
  rw [← List.drop_append] at htail
  have hspeech : Speech r (Cause (joined p part) q) p.socket said :=
    h.speech.mono fun _ ↦ Cause.mono (List.prefix_refl _) (List.prefix_refl _)
  refine ⟨hspeech.fed part, h.wrote, ?_, h.blames, ?_⟩
  · obtain ⟨read, skipped, rest, hanswer, hhearing⟩ := h.hearing
    refine ⟨read, skipped, rest, hanswer, ?_⟩
    rw [WebSocket.output, ← htail] at hhearing
    show Hearing (p.socket.fed part) _ (q.socket.output.drop (p.taken + part.length)) _ _ _
    rw [← List.drop_drop, WebSocket.output, ← htail, List.drop_left]
    exact hhearing.fed
  · have hlength := congrArg List.length htail
    rw [List.length_append, ← WebSocket.output, List.length_drop] at hlength
    show p.taken + part.length ≤ q.socket.output.length
    have htaken := h.taken
    omega

/-! ## Runs -/

variable {d d' d₀ : Dialogue} {talk : Role → List (Message × Frame)}

theorem follows_opened (h : Opened d) (r : Role) : Follows r (d r) (d r.other) [] [] := by
  obtain ⟨answers, config, hsocket, hlimits⟩ := h.new r
  have honce := once_fromPartiallyRead hsocket
  obtain ⟨frame, rfl, hw⟩ := fromPartiallyRead_ok hsocket
  have houtput : (d r.other).socket.output = [] := by
    obtain ⟨answers', config', hsocket', -⟩ := h.new r.other
    obtain ⟨frame', rfl, hw'⟩ := fromPartiallyRead_ok hsocket'
    rw [hw']
    rfl
  refine ⟨?_, ?_, ⟨[], [], [], rfl, ?_⟩, ?_, ?_⟩
  · refine ⟨?_, honce, ?_, ?_, ?_, ?_, List.Pairwise.nil⟩
    · rw [hw]
    · rw [hw]
      rfl
    · rw [hw]
      rfl
    · exact List.forall_mem_nil _
    · rw [hw]
      rintro f ⟨⟩
  · rw [h.journal r]
    rfl
  · rw [houtput, h.journal r, List.drop_nil, hw]
    refine ⟨.nil, .between rfl rfl, ?_, ?_, fun hnil ↦ absurd rfl hnil, ?_, hlimits, rfl⟩
    · exact fun _ ↦ ⟨rfl, List.forall_mem_nil _⟩
    · rintro ⟨⟩
    · exact List.forall_mem_nil _
  · rw [h.journal r]
    exact List.forall_mem_nil _
  · rw [h.taken r]
    exact Nat.zero_le _

/-- **A step**: the side that acts says something more, and the other goes on. -/
theorem follows_step (hu : u.Lawful)
    (h : ∀ r, Follows r (d r) (d r.other) (talk r) (talk r.other)) {a : Role × Act}
    (ha : Allowed d a) (hd : step u d a = some d') :
    ∃ talk' : Role → List (Message × Frame),
      ∀ r, Follows r (d' r) (d' r.other) (talk' r) (talk' r.other) := by
  obtain ⟨r, act⟩ := a
  cases hd
  have hother := h r.other
  rw [r.other_other] at hother
  obtain ⟨more, hmore, hjournal⟩ : ∃ more,
      Follows r (acts u (d r) act) (d r.other) (talk r ++ more) (talk r.other) ∧
        (d r).journal <+: (acts u (d r) act).journal := by
    cases ha with
    | call hpolite hreads =>
        obtain ⟨more, hmore⟩ := (h r).performs hu hother hpolite hreads
        exact ⟨more, hmore, List.prefix_append _ _⟩
    | joins _ hpart =>
        refine ⟨[], ?_, List.prefix_refl _⟩
        rw [List.append_nil]
        exact (h r).joins hpart
  refine ⟨Function.update talk r (talk r ++ more), fun s ↦ ?_⟩
  rcases r.eq_or_other s with rfl | rfl
  · rw [Function.update_self, Function.update_self, Function.update_of_ne s.other_ne,
      Function.update_of_ne s.other_ne]
    exact hmore
  · rw [r.other_other, Function.update_self, Function.update_self,
      Function.update_of_ne r.other_ne, Function.update_of_ne r.other_ne]
    exact hother.answered (h r) hmore.speech hjournal

/-- **A run**: what has been said explains what has been heard. -/
theorem follows_reach (hu : u.Lawful) (h₀ : Opened d₀) (h : Reach (step u) Allowed d₀ d) :
    ∃ talk : Role → List (Message × Frame),
      ∀ r, Follows r (d r) (d r.other) (talk r) (talk r.other) :=
  h.invariant (P := fun d ↦ ∃ talk : Role → List (Message × Frame),
      ∀ r, Follows r (d r) (d r.other) (talk r) (talk r.other))
    ⟨fun _ ↦ [], follows_opened h₀⟩ fun hd ha hs ↦ hd.elim fun _ ht ↦ follows_step hu ht ha hs

/-- What keeps its order is heard as it was said. -/
theorem ordered_of_hears (h : List.Forall₂ (fun x m ↦ Hears x.1 m) read heard) :
    heard.filter Message.ordered = (read.map Prod.fst).filter Message.ordered := by
  induction h with
  | nil => rfl
  | @cons x m read heard hhears _ ih =>
      obtain ⟨hordered, hsame⟩ := hhears.ordered
      rw [List.map_cons, List.filter_cons, List.filter_cons, hordered, ih]
      split
      · rw [hsame ‹_›]
      · rfl

theorem mem_of_hears (h : List.Forall₂ (fun x m ↦ Hears x.1 m) read heard) {m : Message}
    (hm : m ∈ heard) : ∃ x ∈ read, Hears x.1 m := by
  induction h with
  | nil => cases hm
  | @cons x m' read heard hhears _ ih =>
      rcases List.mem_cons.1 hm with rfl | hm
      · exact ⟨x, List.mem_cons_self, hhears⟩
      · obtain ⟨y, hy, hhears⟩ := ih hm
        exact ⟨y, List.mem_cons_of_mem _ hy, hhears⟩

/-- What is skipped keeps no order: behind a Close frame there is a pong at most. -/
theorem Follows.skips (h : Follows r p q said answer)
    (hl : answer = read ++ skipped ++ rest) (hq : Follows r.other q p answer said)
    (hhearing : Hearing w heard tail read skipped rest) :
    (skipped.map Prod.fst).filter Message.ordered = [] := by
  rw [List.filter_eq_nil_iff]
  intro m hm
  obtain ⟨y, hy, rfl⟩ := List.mem_map.1 hm
  obtain ⟨x, hx, hclose⟩ := hhearing.skips (List.ne_nil_of_mem hy)
  subst hl
  have hbehind := (List.pairwise_append.1 (List.pairwise_append.1 hq.speech.behind).1).2.2 x hx y hy
  have hspoken := (hq.speech.spoken y (List.mem_append_left _ (List.mem_append_right _ hy))).1
  rw [hspoken.isPong (hbehind hclose)]
  exact Bool.false_ne_true

/-- **What a side has heard is a beginning of what the other has written.** -/
theorem Follows.inOrder (h : Follows r p q said answer) (hq : Follows r.other q p answer said) :
    p.journal.heard.filter Message.ordered <+: q.journal.wrote.filter Message.ordered := by
  obtain ⟨read, skipped, rest, hanswer, hhearing⟩ := h.hearing
  rw [ordered_of_hears hhearing.heard, ← hq.wrote, hanswer, List.append_assoc, List.map_append,
    List.filter_append]
  exact List.prefix_append _ _

/-- **Who has to wait for more has heard everything**, if all that the other has put out has been
taken from the stream. -/
theorem Follows.heardAll (hu : u.Lawful) {answers : Answers} (h : Follows r p q said answer)
    (hq : Follows r.other q p answer said)
    (hreads : FrameCodec.given answers.reads <+: q.socket.socket.written.drop p.taken)
    (hattempt : (WebSocket.read u).attempt (p.socket.answered answers) =
      (.error (.io .wouldBlock), w'))
    (htaken : p.taken + ((FrameCodec.given answers.reads).length -
      (FrameCodec.given w'.socket.answers.reads).length) = q.socket.output.length) :
    p.journal.heard.filter Message.ordered = q.journal.wrote.filter Message.ordered := by
  obtain ⟨used, tail, read, skipped, rest, hl⟩ := h.listens hu hq hreads
  rw [hattempt] at hl
  obtain ⟨w₁, -, hreadsOn⟩ := hl.reads
  have hleft := hl.left
  rw [hl.taken, List.length_append, Nat.add_sub_cancel] at htaken
  rw [htaken, List.drop_length] at hleft
  have hrest : rest = [] := by
    by_contra hne
    exact hreadsOn.waits_for rfl hne hleft.symm
  have hhearing := hl.hearing
  rw [ordered_of_hears hhearing.heard, ← hq.wrote, hl.parts, hrest, List.append_nil,
    List.map_append, List.filter_append, h.skips hl.parts hq hhearing, List.append_nil]

/-- Two new sides, on streams that have nothing to give. -/
def silent : Dialogue := fun r ↦ ⟨fresh r ⟨[], [], [], []⟩, 0, []⟩

theorem opened_silent : Opened silent :=
  ⟨fun _ ↦ ⟨_, none, rfl, rfl, rfl⟩, fun _ ↦ rfl, fun _ ↦ rfl⟩

/-- **What is heard keeps the order of what was written.**  Nothing that keeps an order is missing
before what has been heard, or comes twice; behind a Close nothing is heard.  Who has to wait for
more, with all that the other has put out taken from the stream, has heard everything. -/
theorem heard_in_order (hu : u.Lawful) (h₀ : Opened d₀) (h : Reach (step u) Allowed d₀ d)
    (r : Role) :
    (d r).journal.heard.filter Message.ordered <+:
        (d r.other).journal.wrote.filter Message.ordered ∧
      (∀ m ∈ (d r).journal.heard.dropLast, ∀ c, m ≠ .close c) ∧
      ∀ answers : Answers, FrameCodec.given answers.reads <+: d.onWay r →
        ((d r).socket.perform u (.read, answers)).1 = .error (.io .wouldBlock) →
        (performed u (d r) .read answers).taken = (d r.other).socket.output.length →
        (d r).journal.heard.filter Message.ordered =
          (d r.other).journal.wrote.filter Message.ordered := by
  obtain ⟨talk, htalk⟩ := follows_reach hu h₀ h
  have hr := htalk r
  have hq := htalk r.other
  rw [r.other_other] at hq
  refine ⟨hr.inOrder hq, ?_, ?_⟩
  · obtain ⟨read, skipped, rest, hanswer, hhearing⟩ := hr.hearing
    rintro m hm c rfl
    have htake := List.forall₂_take (read.length - 1) hhearing.heard
    rw [List.dropLast_eq_take, ← hhearing.heard.length_eq] at hm
    obtain ⟨x, hx, hhears⟩ := mem_of_hears htake hm
    rw [← List.dropLast_eq_take] at hx
    have hspoken : Says r.other x.1 x.2 := by
      refine (hq.speech.spoken x ?_).1
      rw [hanswer, List.append_assoc]
      exact List.mem_append_left _ (List.dropLast_subset _ hx)
    cases (hhearing.last x hx).symm.trans ((hspoken.isClose_heard hhears).2 ⟨c, rfl⟩)
  · intro answers hreads hblock htaken
    have hread := error_of_call hblock
    change _ + (_ - (FrameCodec.given ((call u .read).attempt
      ((d r).socket.answered answers)).2.socket.answers.reads).length) = _ at htaken
    rw [attempt_call_read] at htaken
    exact hr.heardAll hu hq hreads (Prod.ext hread rfl) htaken

/-- A server pings a client, whose handshake receives that with the head of the answer. -/
theorem heard_in_order_ping : ∃ d : Dialogue, (d .client).journal.heard = [.ping [1]] ∧
    (d .client).journal.heard.filter Message.ordered =
      (d .server).journal.wrote.filter Message.ordered := by
  have h₀ : Reach (step .reference) Allowed silent silent := .refl
  have h₁ := h₀.tail (a := (.server, .call (.write (.ping [1])) ⟨[], [], [], []⟩))
    (.call (.write (.ping (by decide))) ⟨_, rfl⟩) rfl
  have h₂ := h₁.tail (a := (.server, .call .flush ⟨[], [.ok 3], [], []⟩))
    (.call .flush ⟨_, rfl⟩) rfl
  have h₃ := h₂.tail (a := (.client, .joins [0x89, 1, 1])) (.joins rfl ⟨_, rfl⟩) rfl
  have h₄ := h₃.tail (a := (.client, .call .read ⟨[], [], [], []⟩)) (.call .read ⟨_, rfl⟩) rfl
  obtain ⟨-, -, hall⟩ := heard_in_order Utf8Crate.reference_lawful opened_silent h₄ .client
  exact ⟨_, rfl, hall ⟨[], [], [], []⟩ ⟨_, rfl⟩ rfl rfl⟩

/-- A client pings a server, which closes the connection before it answers: its Close frame goes out
first, and the pong behind it. -/
theorem reach_late : ∃ d, Reach (step .reference) Allowed silent d ∧
    (d .server).journal =
      [(.read, .ok (some (.ping [1]))), (.close (some ⟨.normal, []⟩), .ok none)] ∧
    (d .client).journal = [(.write (.ping [1]), .ok none), (.flush, .ok none),
      (.read, .ok (some (.close (some ⟨.normal, []⟩)))),
      (.read, .error (.protocol .receivedAfterClosing))] := by
  have h₀ : Reach (step .reference) Allowed silent silent := .refl
  have h₁ := h₀.tail (a := (.client, .call (.write (.ping [1])) ⟨[], [], [], []⟩))
    (.call (.write (.ping (by decide))) ⟨_, rfl⟩) rfl
  have h₂ := h₁.tail (a := (.client, .call .flush ⟨[], [.ok 7], [], []⟩))
    (.call .flush ⟨_, rfl⟩) rfl
  have h₃ := h₂.tail
    (a := (.server, .call .read ⟨[.ok [0x89, 0x81, 0, 0, 0, 0, 1]], [], [], []⟩))
    (.call .read ⟨_, rfl⟩) rfl
  have hshort : ∀ c ∈ some (⟨.normal, []⟩ : CloseFrame), c.Short := by
    rintro _ ⟨⟩
    exact Nat.zero_le _
  have h₄ := h₃.tail
    (a := (.server, .call (.close (some ⟨.normal, []⟩)) ⟨[], [.ok 7], [], []⟩))
    (.call (.close hshort .close) ⟨_, rfl⟩) rfl
  have h₅ := h₄.tail (a := (.client, .call .read ⟨[.ok [0x88, 2, 0x03, 0xE8]], [], [], []⟩))
    (.call .read ⟨_, rfl⟩) rfl
  have h₆ := h₅.tail (a := (.client, .call .read ⟨[.ok [0x8A, 1, 1]], [], [], []⟩))
    (.call .read ⟨_, rfl⟩) rfl
  exact ⟨_, h₆, rfl, rfl⟩

/-- **Nobody is blamed.**  The calls of a side end in errors that are not about the other side, but
that something comes behind a Close frame: the other has put out its Close frame then, and a pong
behind it. -/
theorem nobody_is_blamed (hu : u.Lawful) (h₀ : Opened d₀) (h : Reach (step u) Allowed d₀ d)
    (r : Role) : ∀ entry ∈ (d r).journal, ∀ e, entry.2 = .error e → e.Fair ∨
      e = .protocol .receivedAfterClosing ∧ ∃ front close pongs,
        (d r.other).socket.socket.queued = front ++ close :: pongs ∧ close.isClose = true ∧
          pongs ≠ [] ∧ ∀ f ∈ pongs, f.isPong = true := by
  obtain ⟨talk, htalk⟩ := follows_reach hu h₀ h
  have hspeech := (htalk r.other).speech
  intro entry hentry e he
  refine ((htalk r).blames entry hentry e he).imp_right (And.imp_right ?_)
  rintro ⟨front, x, back, htalk', hclose, hback⟩
  refine ⟨front.map Prod.snd, x.2, back.map Prod.snd, ?_, hclose, ?_, ?_⟩
  · rw [hspeech.queued, htalk', List.map_append]
    rfl
  · exact fun hnil ↦ hback (List.map_eq_nil_iff.1 hnil)
  · have hbehind := hspeech.behind
    rw [htalk'] at hbehind
    intro f hf
    obtain ⟨y, hy, rfl⟩ := List.mem_map.1 hf
    exact List.rel_of_pairwise_cons (List.pairwise_append.1 hbehind).2.1 hy hclose

/-- In `reach_late` the server is blamed for the pong. -/
theorem nobody_is_blamed_late : ∃ d : Dialogue, ∃ front close pongs,
    (d .client).journal.getLast? = some (.read, .error (.protocol .receivedAfterClosing)) ∧
      (d .server).socket.socket.queued = front ++ close :: pongs ∧ close.isClose = true ∧
        pongs ≠ [] ∧ ∀ f ∈ pongs, f.isPong = true := by
  obtain ⟨d, hreach, -, hclient⟩ := reach_late
  have hlast : (d .client).journal.getLast? =
      some (.read, .error (.protocol .receivedAfterClosing)) := by
    rw [hclient]
    rfl
  rcases nobody_is_blamed Utf8Crate.reference_lawful opened_silent hreach .client _
    (List.mem_of_getLast? hlast) _ rfl with hfair | ⟨-, front, close, pongs, hqueued, hpongs⟩
  · cases hfair
  · exact ⟨d, front, close, pongs, hlast, hqueued, hpongs⟩

/-- **Nothing comes from nowhere.**  A pong that is heard was asked for, or it answers a ping that
this side was asked for; a Close that is heard is the command that a side was given as it is read on
its way, or the one in its place. -/
theorem nothing_from_nowhere (hu : u.Lawful) (h₀ : Opened d₀) (h : Reach (step u) Allowed d₀ d)
    (r : Role) :
    (∀ b, .pong b ∈ (d r).journal.heard →
        .write (.pong b) ∈ (d r.other).journal.calls ∨ .write (.ping b) ∈ (d r).journal.calls) ∧
      ∀ c, .close c ∈ (d r).journal.heard → ∃ c₀ call s, Closes (some c₀) call ∧
        call ∈ (d s).journal.calls ∧ (c = some c₀.onWire ∨ c = some c₀.onWire.checked) := by
  obtain ⟨talk, htalk⟩ := follows_reach hu h₀ h
  have hq := htalk r.other
  rw [r.other_other] at hq
  obtain ⟨read, skipped, rest, hanswer, hhearing⟩ := (htalk r).hearing
  -- What is heard has been said by the other side, and has a cause there.
  have hcause : ∀ m ∈ (d r).journal.heard, ∃ m', Hears m' m ∧ Cause (d r.other) (d r) m' := by
    intro m hm
    obtain ⟨x, hx, hhears⟩ := mem_of_hears hhearing.heard hm
    refine ⟨x.1, hhears, (hq.speech.spoken x ?_).2⟩
    rw [hanswer, List.append_assoc]
    exact List.mem_append_left _ hx
  refine ⟨fun b hb ↦ ?_, fun c hc ↦ ?_⟩
  · obtain ⟨m, hhears, hm⟩ := hcause _ hb
    cases hhears with
    | message =>
        refine hm.imp_right fun hping ↦ Journal.mem_calls_of_wrote ?_
        obtain ⟨read', skipped', rest', hanswer', hhearing'⟩ := hq.hearing
        have hordered : Message.ping b ∈ (talk r).map Prod.fst := by
          have hmem := List.mem_filter.2 ⟨hping, (rfl : (Message.ping b).ordered = true)⟩
          rw [ordered_of_hears hhearing'.heard] at hmem
          rw [hanswer', List.append_assoc, List.map_append]
          exact List.mem_append_left _ (List.mem_filter.1 hmem).1
        have hmem := List.mem_filter.2 ⟨hordered, (rfl : (Message.ping b).ordered = true)⟩
        rw [(htalk r).wrote] at hmem
        exact (List.mem_filter.1 hmem).1
  · obtain ⟨m, hhears, hm⟩ := hcause _ hc
    obtain ⟨c₀, call, hcloses, hcall | hcall, hc'⟩ := hm.close hhears
    · exact ⟨c₀, call, r, hcloses, hcall, hc'⟩
    · exact ⟨c₀, call, r.other, hcloses, hcall, hc'⟩

/-- The Close of `reach_late` has come of a command. -/
theorem nothing_from_nowhere_late : ∃ d : Dialogue,
    .close (some ⟨.normal, []⟩) ∈ (d .client).journal.heard ∧
      ∃ c₀ call s, Closes (some c₀) call ∧ call ∈ (d s).journal.calls ∧
        (some ⟨.normal, []⟩ = some c₀.onWire ∨
          some ⟨.normal, []⟩ = some c₀.onWire.checked) := by
  obtain ⟨d, hreach, -, hclient⟩ := reach_late
  have hheard : .close (some ⟨.normal, []⟩) ∈ (d .client).journal.heard := by
    rw [hclient]
    exact List.mem_cons_self
  exact ⟨d, hheard,
    (nothing_from_nowhere Utf8Crate.reference_lawful opened_silent hreach .client).2 _ hheard⟩

end Dialogue

end WebSocket

end Ws

end MessageIo
