import MessageIo.Adapters.WsStranded
import MessageIo.Protocol.Dialogue

/-!
# Two WebSocket remotes (`ws_adapter.rs`)

A remote that was accepted and one that was connected, behind their handshakes, over two streams
that are late, give pieces of any size and fail at any time.  A remote is locked for one turn of
`receive` or for a whole `send`, so the turns of one end, its sends, and what the other end does
come in any order.  A client may have received more than the head with its handshake.

What an end has processed is a beginning of what the other has sent (`packets_in_order`): all that
was `Sent`, in that order, and of what was not perhaps some.
-/

namespace MessageIo

namespace Ws

open Transition FrameCodec
open WebSocket (Journal Party Speech Adds Mute accepted isRefusal)
open WebSocket.Dialogue (Follows Cause)

/-! ## A conversation -/

/-- One end: its web socket, how much it has taken from its stream, what it has processed, and what
it has sent with the status of each call. -/
structure End where
  stream : TcpStream
  web : WebSocket
  taken : Nat
  processed : List Bytes
  sent : List (Bytes × SendStatus)

/-- What an end does: a turn of `receive` with what there is to read, or a `send`; at first it takes
over what its handshake has received behind the head. -/
inductive Deed where
  | joins (part : Bytes)
  | turn (kernel : List ReadCall) (answers : TurnAnswers)
  | send (data : Bytes) (first : Answers) (more : List Answers)

namespace End

/-- The resource of a remote that is ready. -/
def resource (e : End) : RemoteResource := ⟨.webSocket e.stream, none⟩

/-- A turn of `receive`, if it returns. -/
def turn (u : Utf8Crate) (kernel : List ReadCall) (answers : TurnAnswers) (e : End) :
    Option End := do
  let (env, c) ← Connection.turn u answers ⟨e.web, kernel⟩
  let (turn, _) ← (e.resource.receiveTurn env).toOption
  return { e with
    web := c.web
    taken := e.taken + ((given kernel).length - (given c.kernel).length)
    processed := e.processed ++ turn.data.toList }

/-- `send` is called, if it returns. -/
def send (data : Bytes) (first : Answers) (more : List Answers) (e : End) : Option End := do
  let out := (WebSocket.send (.binary data)).attempt (e.web.answered first)
  let (calls, web) ← Connection.sends out.1 out.2 more
  let status ← (e.resource.send data ⟨[], calls⟩).result.toOption
  return { e with web, sent := e.sent ++ [(data, status)] }

/-- The end of a handshake that has received more than the head. -/
def joined (part : Bytes) (e : End) : End :=
  { e with web := e.web.fed part, taken := e.taken + part.length }

def perform (u : Utf8Crate) (e : End) : Deed → Option End
  | .joins part => some (e.joined part)
  | .turn kernel answers => e.turn u kernel answers
  | .send data first more => e.send data first more

/-- The side of a dialogue that an end is, with a journal of its calls. -/
def party (e : End) (j : Journal) : Party := ⟨e.web, e.taken, j⟩

end End

/-- Both ends. -/
abbrev Conversation := Role → End

namespace Conversation

def step (u : Utf8Crate) (d : Conversation) (a : Role × Deed) : Option Conversation :=
  ((d a.1).perform u a.2).map fun e ↦ Function.update d a.1 e

/-- What there is to read is on its way, and what is sent is not longer than a frame may be.  Only a
client joins with more than the head: a server refuses it. -/
inductive Allowed (d : Conversation) : Role × Deed → Prop
  | joins {part : Bytes} (htaken : (d .client).taken = 0) (hsent : (d .client).sent = [])
      (h : part <+: (d .server).web.socket.written) : Allowed d (.client, .joins part)
  | turn {r : Role} {kernel : List ReadCall} {answers : TurnAnswers}
      (h : given kernel <+: (d r.other).web.socket.written.drop (d r).taken) :
      Allowed d (r, .turn kernel answers)
  | send {r : Role} {data : Bytes} {first : Answers} {more : List Answers}
      (h : data.length ≤ 16 <<< 20) : Allowed d (r, .send data first more)

/-- Two ends behind a handshake. -/
structure Opened (d : Conversation) : Prop where
  new : ∀ r, ∃ answers, WebSocket.fromRawSocket (.new answers) r none = .ok (d r).web
  taken : ∀ r, (d r).taken = 0
  processed : ∀ r, (d r).processed = []
  sent : ∀ r, (d r).sent = []

end Conversation

/-! ## A turn of `receive` -/

/-- The data that is processed of a message. -/
def payloadOf : Message → Option Bytes
  | .binary data => some data
  | _ => none

/-- The data of a turn is that of the message that `read` has returned. -/
theorem receiveTurn_eq {resource : RemoteResource} {stream : TcpStream}
    (h : resource.state = .webSocket stream) {a : Except Error Message} {env : ReadEnv}
    (hread : readCall a = some env.wsRead) :
    ∃ turn, resource.receiveTurn env = .ok (turn, resource) ∧
      turn.data = (WebSocket.gained (a.map some)).bind payloadOf := by
  obtain ⟨read, wrapStream, wsRead, peek⟩ := env
  have hread' : readCall a = some wsRead := hread
  rw [RemoteResource.receiveTurn, h]
  cases a with
  | ok m =>
      cases m with
      | binary data =>
          cases hread'
          cases peek with
          | ok _ => exact ⟨_, rfl, rfl⟩
          | error kind => exact ⟨_, rfl, rfl⟩
      | _ =>
          cases hread'
          exact ⟨_, rfl, rfl⟩
  | error e =>
      rcases readCall_error hread' with ⟨kind, rfl, rfl⟩ | rfl
      · exact ⟨_, rfl, rfl⟩
      · exact ⟨_, rfl, rfl⟩

section Follows

variable {u : Utf8Crate} {r : Role} {p q : Party} {said answer : List (Message × Frame)}

/-- A turn is a call of `read`. -/
theorem turn_eq_some {a : TurnAnswers} {c c' : Connection} {env : ReadEnv}
    (h : c.turn u a = some (env, c')) :
    ∃ result, (WebSocket.read u).attempt
        (c.web.answered ⟨c.kernel, a.writes, a.flushes, a.masks⟩) = (result, c'.web) ∧
      c'.kernel = c'.web.socket.answers.reads ∧ readCall result = some env.wsRead := by
  obtain ⟨call, hcall, heq⟩ := Option.map_eq_some_iff.1 h
  cases heq
  exact ⟨_, rfl, rfl, hcall⟩

/-- **What a turn does**: its call of `read` goes into the journal. -/
theorem follows_turn (hu : u.Lawful) {a : TurnAnswers} {kernel : List ReadCall} {env : ReadEnv}
    {c : Connection} (h : Follows r p q said answer) (hq : Follows r.other q p answer said)
    (hkernel : given kernel <+: q.socket.socket.written.drop p.taken)
    (hturn : Connection.turn u a ⟨p.socket, kernel⟩ = some (env, c)) :
    ∃ used more result, Follows r ⟨c.web, p.taken + used.length,
          p.journal ++ [(Call.read, result.map some)]⟩ q (said ++ more) answer ∧
      given kernel = used ++ given c.kernel ∧ readCall result = some env.wsRead := by
  obtain ⟨result, hattempt, hleft, hcall⟩ := turn_eq_some hturn
  obtain ⟨used, tail, read, skipped, rest, hl⟩ :=
    @WebSocket.Dialogue.Follows.listens u r p q said answer hu
      ⟨kernel, a.writes, a.flushes, a.masks⟩ h hq hkernel
  change (WebSocket.read u).attempt
    (p.socket.answered ⟨kernel, a.writes, a.flushes, a.masks⟩) = _ at hattempt
  rw [hattempt] at hl
  obtain ⟨more, hmore⟩ := h.hears hq hl
  refine ⟨used, more, result, hmore, ?_, hcall⟩
  rw [hleft]
  exact hl.taken

end Follows

/-! ## `send` -/

section Sends

variable {side : Role} {cause : Message → Prop} {said : List (Message × Frame)}
  {ms : List Message} {w w₁ w' : WebSocket} {result : Except Error Unit}

/-- What `send` is told of a call which blames nobody. -/
theorem sendCall_of_mute {call : WsSendCall} (hmute : Mute result)
    (h : sendCall result = some call) :
    call = .err ∨ isRefusal result = false ∧ (call = .ok ∨ ∃ kind, call = .ioErr kind) := by
  cases result with
  | ok a =>
      cases h
      exact .inr ⟨rfl, .inl rfl⟩
  | error e =>
      cases e with
      | io kind =>
          cases h
          exact .inr ⟨rfl, .inr ⟨kind, rfl⟩⟩
      | messageTooLong size maxSize => cases hmute _ rfl
      | halt x => cases h
      | _ =>
          cases h
          exact .inl rfl

/-- The status after a call that would not block. -/
theorem status_sendLoop {call : WsSendCall} {calls : List WsSendCall} {status : SendStatus}
    (hcall : call = .err ∨ isRefusal result = false ∧ (call = .ok ∨ ∃ kind, call = .ioErr kind))
    (hblock : call ≠ .ioErr .wouldBlock)
    (h : (RemoteResource.sendLoop (call :: calls)).result = .ok status) :
    status ≠ .maxPacketSizeExceeded ∧ (status = .sent → isRefusal result = false) := by
  rcases hcall with rfl | ⟨haccepted, rfl | ⟨kind, rfl⟩⟩
  · cases h
    exact ⟨by rintro ⟨⟩, by rintro ⟨⟩⟩
  · cases h
    exact ⟨by rintro ⟨⟩, fun _ ↦ haccepted⟩
  · cases kind with
    | wouldBlock => exact absurd rfl hblock
    | _ =>
        cases h
        exact ⟨by rintro ⟨⟩, by rintro ⟨⟩⟩

/-- **What `send` does behind its first call**: it flushes, and it is never told that the message
is too big. -/
theorem adds_sends {first : Answers} {more : List Answers} {calls : List WsSendCall}
    (hadds : Adds side cause said (w.answered first) ms w₁) (hmute : Mute result)
    (h : Connection.sends result w₁ more = some (calls, w')) :
    (∃ answers, Adds side cause said (w.answered answers) ms w') ∧
      ∀ status, (RemoteResource.sendLoop calls).result = .ok status →
        status ≠ .maxPacketSizeExceeded ∧ (status = .sent → isRefusal result = false) := by
  induction more generalizing result first w₁ calls with
  | nil =>
      obtain ⟨call, hcall, h⟩ := Option.bind_eq_some_iff.1 h
      cases h
      refine ⟨⟨first, hadds⟩, fun status hstatus ↦ ?_⟩
      by_cases hblock : call = .ioErr .wouldBlock
      · subst hblock
        cases hstatus
      · exact status_sendLoop (sendCall_of_mute hmute hcall) hblock hstatus
  | cons a more ih =>
      obtain ⟨call, hcall, h⟩ := Option.bind_eq_some_iff.1 h
      split at h
      · cases h
        exact ⟨⟨first, hadds⟩, fun status ↦
          status_sendLoop (sendCall_of_mute hmute hcall) ‹_›⟩
      · rename_i hblock
        obtain ⟨⟨calls', w₂⟩, hrest, h⟩ := Option.bind_eq_some_iff.1 h
        cases h
        have hflush := WebSocket.flushes_flush (w₁.answered a)
        have hrest' := ih ((hadds.answered a).flushed hflush.1) hflush.2.mute hrest
        rw [not_ne_iff] at hblock
        subst hblock
        refine ⟨hrest'.1, fun status hstatus ↦ ⟨(hrest'.2 status hstatus).1, fun _ ↦ ?_⟩⟩
        rcases sendCall_of_mute hmute hcall with hcall | haccepted
        · cases hcall
        · exact haccepted.1

/-- **What `send` does**: it writes a binary, and what is `Sent` has not been refused. -/
theorem follows_send {r : Role} {p q : Party} {answer : List (Message × Frame)}
    {data : Bytes} {first : Answers} {more : List Answers} {calls : List WsSendCall}
    (h : Follows r p q said answer) (hlength : data.length ≤ 16 <<< 20)
    (hattempt : (WebSocket.send (.binary data)).attempt (p.socket.answered first) = (result, w₁))
    (hsends : Connection.sends result w₁ more = some (calls, w')) :
    (∃ said', Follows r ⟨w', p.taken,
          p.journal ++ [(Call.write (.binary data), result.map fun _ ↦ none)]⟩ q
        (said ++ said') answer) ∧
      ∀ status, (RemoteResource.sendLoop calls).result = .ok status →
        status ≠ .maxPacketSizeExceeded ∧ (status = .sent → isRefusal result = false) := by
  let p' : Party :=
    ⟨w', p.taken, p.journal ++ [(Call.write (.binary data), result.map fun _ ↦ none)]⟩
  have hgrows : p.journal <+: p'.journal := List.prefix_append _ _
  have hspeech : Speech r (Cause p' q) (p.socket.answered first) said :=
    (h.speech.mono fun _ ↦ Cause.mono hgrows (List.prefix_refl _)).answered first
  have hsend := hspeech.ensures_send hlength trivial
  rw [EStateM.Ensures, hattempt] at hsend
  obtain ⟨hadds, hmute⟩ := hsend
  obtain ⟨⟨answers, hadds'⟩, hstatus⟩ := adds_sends hadds hmute hsends
  have hmap : accepted (.write (.binary data)) (result.map fun _ ↦ (none : Option Message)) =
      accepted (.write (.binary data)) result := by
    rw [accepted, accepted, WebSocket.isRefusal_map]
  rw [← hmap] at hadds'
  refine ⟨h.talks hadds' ?_ ?_, hstatus⟩
  · cases result with
    | ok a => rintro e ⟨⟩
    | error e =>
        rintro _ ⟨⟩
        exact hmute e rfl
  · cases result with
    | ok a => rintro m ⟨⟩
    | error e => rintro m ⟨⟩

end Sends

/-! ## Steps -/

/-- **What an end keeps**: it has processed the binaries that it has heard, and written all that it
has sent, but for some that has another status. -/
structure Kept (e : End) (j : Journal) : Prop where
  processed : e.processed = j.heard.filterMap payloadOf
  sent : ((e.sent.filter fun x ↦ x.2 = .sent).map Prod.fst).Sublist (j.wrote.filterMap payloadOf)
  wrote : (j.wrote.filterMap payloadOf).Sublist (e.sent.map Prod.fst)
  fits : ∀ x ∈ e.sent, x.2 ≠ .maxPacketSizeExceeded

section Kept

variable {u : Utf8Crate} {r : Role} {e e' : End} {q : Party} {j : Journal}
  {said answer : List (Message × Frame)}

/-- An end does a turn of `receive`. -/
theorem Kept.turn (hu : u.Lawful) {kernel : List ReadCall} {answers : TurnAnswers} (hk : Kept e j)
    (h : Follows r (e.party j) q said answer) (hq : Follows r.other q (e.party j) answer said)
    (hkernel : given kernel <+: q.socket.socket.written.drop e.taken)
    (he : e.turn u kernel answers = some e') :
    ∃ j' more, j <+: j' ∧ Kept e' j' ∧ Follows r (e'.party j') q (said ++ more) answer := by
  obtain ⟨⟨env, c⟩, hturn, he⟩ := Option.bind_eq_some_iff.1 he
  obtain ⟨⟨turn, resource⟩, hreceive, he⟩ := Option.bind_eq_some_iff.1 he
  cases he
  obtain ⟨used, more, result, hfollows, hused, hcall⟩ := follows_turn hu h hq hkernel hturn
  obtain ⟨turn', hreceive', hdata⟩ := receiveTurn_eq (h := (rfl : e.resource.state = _)) hcall
  rw [hreceive'] at hreceive
  cases hreceive
  have hwrote : Journal.wrote (j ++ [(Call.read, result.map some)]) = j.wrote := by
    rw [Journal.wrote_concat]
    exact List.append_nil _
  refine ⟨j ++ [(Call.read, result.map some)], more, List.prefix_append _ _, ?_, ?_⟩
  · refine ⟨?_, hwrote ▸ hk.sent, hwrote ▸ hk.wrote, hk.fits⟩
    show e.processed ++ turn.data.toList = _
    rw [hk.processed, hdata, Journal.heard_concat, List.filterMap_append]
    cases WebSocket.gained (result.map some) with
    | none => rfl
    | some m => cases m <;> rfl
  · rw [End.party, hused, List.length_append, Nat.add_sub_cancel]
    exact hfollows

/-- An end sends something. -/
theorem Kept.send {data : Bytes} {first : Answers} {more : List Answers} (hk : Kept e j)
    (h : Follows r (e.party j) q said answer) (hlength : data.length ≤ 16 <<< 20)
    (he : e.send data first more = some e') :
    ∃ j' more, j <+: j' ∧ Kept e' j' ∧ Follows r (e'.party j') q (said ++ more) answer := by
  obtain ⟨⟨calls, web⟩, hsends, he⟩ := Option.bind_eq_some_iff.1 he
  obtain ⟨status, hstatus, he⟩ := Option.bind_eq_some_iff.1 he
  cases he
  generalize hout : (WebSocket.send (.binary data)).attempt (e.web.answered first) = out at hsends
  obtain ⟨result, w₁⟩ := out
  obtain ⟨⟨said', hfollows⟩, hstatus'⟩ := follows_send h hlength hout hsends
  have hcall : (e.resource.send data ⟨[], calls⟩).result = .ok status := by
    generalize (e.resource.send data ⟨[], calls⟩).result = x at hstatus
    cases x with
    | ok a =>
        cases hstatus
        rfl
    | error x => cases hstatus
  obtain ⟨hfits, haccepted⟩ := hstatus' status hcall
  refine ⟨_, said', List.prefix_append _ _, ?_, hfollows⟩
  have hheard : Journal.heard (j ++ [(Call.write (.binary data), result.map fun _ ↦ none)]) =
      j.heard := by
    rw [Journal.heard_concat]
    cases result <;> exact List.append_nil _
  have hwrote : (Journal.wrote
      (j ++ [(Call.write (.binary data), result.map fun _ ↦ none)])).filterMap payloadOf =
      j.wrote.filterMap payloadOf ++ if isRefusal result then [] else [data] := by
    rw [Journal.wrote_concat, List.filterMap_append, accepted, WebSocket.isRefusal_map]
    cases isRefusal result <;> rfl
  refine ⟨hheard ▸ hk.processed, ?_, ?_, List.forall_mem_append.2 ⟨hk.fits, ?_⟩⟩
  · rw [hwrote, List.filter_append, List.map_append]
    refine hk.sent.append ?_
    by_cases hsent : status = .sent
    · rw [haccepted hsent]
      subst hsent
      exact .refl _
    · rw [List.filter_singleton, decide_eq_false hsent, cond_false]
      exact List.nil_sublist _
  · rw [hwrote, List.map_append]
    refine hk.wrote.append ?_
    split
    · exact List.nil_sublist _
    · exact .refl _
  · rw [List.forall_mem_singleton]
    exact hfits

end Kept

/-! ## Runs -/

namespace Conversation

variable {u : Utf8Crate} {d d' d₀ : Conversation}

/-- **The invariant**: the ends are the two sides of a dialogue. -/
def Explained (d : Conversation) : Prop :=
  ∃ (j : Role → Journal) (talk : Role → List (Message × Frame)), ∀ r, Kept (d r) (j r) ∧
    Follows r ((d r).party (j r)) ((d r.other).party (j r.other)) (talk r) (talk r.other)

theorem explained_opened (h : Opened d) : Explained d := by
  have hopened : WebSocket.Dialogue.Opened fun r ↦ (d r).party [] :=
    ⟨fun r ↦ (h.new r).imp fun _ hr ↦ ⟨none, hr, rfl, rfl⟩, h.taken, fun _ ↦ rfl⟩
  refine ⟨fun _ ↦ [], fun _ ↦ [], fun r ↦ ⟨?_, WebSocket.Dialogue.follows_opened hopened r⟩⟩
  refine ⟨h.processed r, ?_, List.nil_sublist _, ?_⟩
  · rw [h.sent r]
    exact .refl _
  · rw [h.sent r]
    exact List.forall_mem_nil _

/-- **A step**: the end that acts says something more, and the other goes on. -/
theorem Explained.step (hu : u.Lawful) (h : Explained d) {a : Role × Deed} (ha : Allowed d a)
    (hd : Conversation.step u d a = some d') : Explained d' := by
  obtain ⟨j, talk, hends⟩ := h
  obtain ⟨r, deed⟩ := a
  obtain ⟨e, he, rfl⟩ := Option.map_eq_some_iff.1 hd
  obtain ⟨hkept, hr⟩ := hends r
  obtain ⟨hkept', hother⟩ := hends r.other
  rw [r.other_other] at hother
  obtain ⟨j', more, hj, hkept₁, hr₁⟩ : ∃ j' more, j r <+: j' ∧ Kept e j' ∧
      Follows r (e.party j') ((d r.other).party (j r.other)) (talk r ++ more) (talk r.other) := by
    cases ha with
    | joins htaken _ hpart =>
        cases he
        refine ⟨_, [], List.prefix_refl _,
          ⟨hkept.processed, hkept.sent, hkept.wrote, hkept.fits⟩, ?_⟩
        rw [List.append_nil]
        refine hr.joins ?_
        rw [show ((d .client).party (j .client)).taken = 0 from htaken, List.drop_zero]
        exact hpart
    | turn h => exact hkept.turn hu hr hother h he
    | send h => exact hkept.send hr h he
  refine ⟨Function.update j r j', Function.update talk r (talk r ++ more), fun s ↦ ?_⟩
  rcases r.eq_or_other s with rfl | rfl
  · simp only [Function.update_self, Function.update_of_ne s.other_ne]
    exact ⟨hkept₁, hr₁⟩
  · simp only [r.other_other, Function.update_self, Function.update_of_ne r.other_ne]
    exact ⟨hkept', hother.answered hr hr₁.speech hj⟩

/-- **A run.** -/
theorem explained_reach (hu : u.Lawful) (h₀ : Opened d₀) (h : Reach (step u) Allowed d₀ d) :
    Explained d :=
  h.invariant (explained_opened h₀) fun hd ha hs ↦ hd.step hu ha hs

/-- The data of the messages that keep their order is all the data. -/
theorem filterMap_ordered (ms : List Message) :
    (ms.filter Message.ordered).filterMap payloadOf = ms.filterMap payloadOf := by
  rw [List.filterMap_filter]
  refine congrArg (fun f ↦ ms.filterMap f) (funext fun m ↦ ?_)
  cases m <;> rfl

/-- **An end waits for more**: `read` would block, with all that the other end has put out taken
from the stream. -/
def Waits (u : Utf8Crate) (d : Conversation) (r : Role) : Prop :=
  ∃ answers : Answers,
    let out := (WebSocket.read u).attempt ((d r).web.answered answers)
    given answers.reads <+: (d r.other).web.socket.written.drop (d r).taken ∧
      out.1 = .error (.io .wouldBlock) ∧
      (d r).taken + ((given answers.reads).length - (given out.2.socket.answers.reads).length) =
        (d r.other).web.output.length

/-- Two ends that have sent nothing. -/
def silent : Conversation := fun r ↦ ⟨⟨0⟩, .fresh r ⟨[], [], [], []⟩, 0, [], []⟩

theorem opened_silent : Opened silent :=
  ⟨fun _ ↦ ⟨_, rfl⟩, fun _ ↦ rfl, fun _ ↦ rfl, fun _ ↦ rfl⟩

/-- **What is processed keeps the order of what was sent.**  What an end has processed is a
beginning of all that the other has `Sent` and perhaps some of what was not, and nothing of it is
missing if the end waits for more.  No `send` is told that its message is too big. -/
theorem packets_in_order (hu : u.Lawful) (h₀ : Opened d₀) (h : Reach (step u) Allowed d₀ d)
    (r : Role) :
    (∃ conveyed : List Bytes,
      (((d r.other).sent.filter fun x ↦ x.2 = .sent).map Prod.fst).Sublist conveyed ∧
        conveyed.Sublist ((d r.other).sent.map Prod.fst) ∧ (d r).processed <+: conveyed ∧
          (Waits u d r → (d r).processed = conveyed)) ∧
      ∀ x ∈ (d r).sent, x.2 ≠ .maxPacketSizeExceeded := by
  obtain ⟨j, talk, hends⟩ := explained_reach hu h₀ h
  obtain ⟨hkept, hr⟩ := hends r
  obtain ⟨hkept', hq⟩ := hends r.other
  rw [r.other_other] at hq
  refine ⟨⟨(j r.other).wrote.filterMap payloadOf, hkept'.sent, hkept'.wrote, ?_, ?_⟩, hkept.fits⟩
  · rw [hkept.processed, ← filterMap_ordered, ← filterMap_ordered (j r.other).wrote]
    exact (hr.inOrder hq).filterMap _
  · rintro ⟨answers, hreads, hblock, htaken⟩
    have hall : (j r).heard.filter _ = (j r.other).wrote.filter _ :=
      WebSocket.Dialogue.Follows.heardAll hu hr hq hreads (Prod.ext hblock rfl) htaken
    rw [hkept.processed, ← filterMap_ordered, hall, filterMap_ordered]

/-- A server sends a byte to a client, whose handshake receives the front of the frame. -/
theorem packets_in_order_one : ∃ d : Conversation, (d .server).sent = [([1], .sent)] ∧
    (d .client).processed = [[1]] ∧ ∃ conveyed : List Bytes,
      List.Sublist [[1]] conveyed ∧ (d .client).processed = conveyed := by
  have h₀ : Reach (step .reference) Allowed silent silent := .refl
  have h₁ := h₀.tail (a := (.server, .send [1] ⟨[], [.ok 3], [], []⟩ [])) (.send (by decide)) rfl
  have h₂ := h₁.tail (a := (.client, .joins [0x82])) (.joins rfl rfl ⟨_, rfl⟩) rfl
  have h₃ := h₂.tail
    (a := (.client, .turn [.ok [1, 1]] ⟨[], [], [], .ok (), by rintro ⟨⟩⟩)) (.turn ⟨_, rfl⟩) rfl
  obtain ⟨⟨conveyed, hsent, -, -, hwaits⟩, -⟩ :=
    packets_in_order Utf8Crate.reference_lawful opened_silent h₃ .client
  exact ⟨_, rfl, rfl, conveyed, hsent, hwaits ⟨⟨[], [], [], []⟩, ⟨_, rfl⟩, rfl, rfl⟩⟩

end Conversation

end Ws

end MessageIo
