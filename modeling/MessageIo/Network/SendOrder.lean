import Mathlib.Data.List.TakeDrop
import MessageIo.Network.Multiplexor

/-!
# What reaches a stream when messages are sent one after another

The driver throws the status of a send away.  A send that stops half way is
therefore followed by the next message, whose bytes the peer takes for the rest of
the one that was cut short.  `in_order_iff` says for every sequence of `Send` and
`SendSync` commands, and for every way the stream answers, whether that happens.
-/

namespace MessageIo

/-! ## Sends, and what a stream makes of them -/

/-- A `Send` or a `SendSync` command, with what is answered while it is processed. -/
structure Sending where
  buffer : Bytes
  /-- The callback of a `SendSync`. -/
  sync : Option Callback
  env : CommandEnv

namespace Sending

def command (s : Sending) (endpoint : Endpoint) : WakerCommand :=
  match s.sync with
  | none => .send endpoint s.buffer
  | some cb => .sendSync endpoint s.buffer cb

/-- The answers of the calls of `write`. -/
def writes (s : Sending) : List WriteCall := s.env.send.writes

/-- The bytes that the calls take, up to the last attempt and to the first fatal
error. -/
def accepted (s : Sending) : Nat := WriteCall.accepted Tcp.maxAttempts s.writes

/-- The calls take the whole message. -/
def Completes (s : Sending) : Prop := s.buffer.length ≤ s.accepted

/-- The calls take something of the message. -/
def TakesByte (s : Sending) : Prop := 0 < s.buffer.length ∧ 0 < s.accepted

/-- The calls do not run out before the send returns. -/
def Returns (s : Sending) : Prop :=
  Tcp.maxAttempts ≤ s.writes.length ∨ (∃ call ∈ s.writes, call.isFatal) ∨
    (∃ call ∈ s.writes, call.isOk) ∧ s.buffer.length ≤ (s.writes.map WriteCall.count).sum

instance (s : Sending) : Decidable s.Completes := inferInstanceAs (Decidable (_ ≤ _))

instance (s : Sending) : Decidable s.TakesByte := inferInstanceAs (Decidable (_ ∧ _))

instance (s : Sending) : Decidable s.Returns := inferInstanceAs (Decidable (_ ∨ _ ∨ _))

/-- The sends that are begun: those behind one that does not return are not. -/
def begun : List Sending → List Sending
  | [] => []
  | s :: more => s :: if s.Returns then begun more else []

/-- The bytes of a send that reach the stream. -/
def sent (s : Sending) : Bytes := s.buffer.take s.accepted

theorem sent_eq_buffer {s : Sending} : s.sent = s.buffer ↔ s.Completes := by
  rw [sent, List.take_eq_self_iff]
  rfl

theorem sent_ne_nil {s : Sending} : s.sent ≠ [] ↔ s.TakesByte := by
  rw [sent, ne_eq, List.take_eq_nil_iff, not_or, TakesByte, List.length_pos_iff, and_comm,
    Nat.pos_iff_ne_zero]

end Sending

/-- **Messages in order**: what was written is a prefix of the messages put together,
and every message is complete before a byte of a later one is written. -/
def InOrder (buffers written : List Bytes) : Prop :=
  written.flatten <+: buffers.flatten ∧
    (buffers.zip written).Pairwise fun a b ↦ b.2 ≠ [] → a.2 = a.1

/-! ## One ready remote -/

/-- A worker with a TCP remote that is registered and ready. -/
structure ReadyRemote where
  transports : List Transport
  processors : Processors
  endpoint : Endpoint
  register : Register Tcp.RemoteResource RemoteProperties
  mounted : Transport.tcp ∈ transports
  isTcp : endpoint.resourceId.adapterId = Transport.tcp.id
  isRemote : endpoint.resourceId.resourceType = .remote
  registered : (processors .tcp).remote endpoint.resourceId = some register
  ready : register.properties.ready = true

/-- The bytes that an effect writes to a stream. -/
def writtenTo (stream : TcpStream) : Effect → Bytes
  | .write w => if w.stream = stream then w.data else []
  | _ => []

/-- The bytes that some effects write to a stream. -/
def bytesTo (stream : TcpStream) (es : List Effect) : Bytes := es.flatMap (writtenTo stream)

theorem bytesTo_append (stream : TcpStream) (es fs : List Effect) :
    bytesTo stream (es ++ fs) = bytesTo stream es ++ bytesTo stream fs := List.flatMap_append

theorem bytesTo_map_write {stream : TcpStream} {ws : List Written}
    (h : ∀ w ∈ ws, w.stream = stream) : bytesTo stream (ws.map .write) = bytesWritten ws := by
  induction ws with
  | nil => rfl
  | cons w ws ih =>
      rw [List.map_cons, bytesTo, List.flatMap_cons, bytesWritten, List.flatMap_cons, writtenTo,
        if_pos (h w List.mem_cons_self)]
      exact congrArg _ (ih fun w' hw' ↦ h w' (List.mem_cons_of_mem _ hw'))

/-- The bytes that each of the commands writes to a stream, command by command, until one
does not return. -/
def writtenEach (transports : List Transport) (stream : TcpStream) (endpoint : Endpoint)
    (ps : Processors) : List Sending → List Bytes
  | [] => []
  | s :: more =>
      let done := processCommand transports ps (s.command endpoint) s.env
      bytesTo stream done.effects ::
        match done.result with
        | .ok ps => writtenEach transports stream endpoint ps more
        | .error _ => []

namespace ReadyRemote

variable (w : ReadyRemote)

/-- The bytes that each of the commands writes to the stream of the remote. -/
def written (sends : List Sending) : List Bytes :=
  writtenEach w.transports w.register.resource.stream w.endpoint w.processors sends

/-- A send to a ready remote is the `send` of its resource. -/
theorem processSend_eq (data : Bytes) (env : SendEnv) :
    (w.processors .tcp).processSend w.endpoint data env =
      (w.register.resource.send data env).mapEffects .write >>= fun _ ↦ pure () := by
  rw [Driver.processSend, w.isRemote]
  simp only [w.registered, w.ready, if_true]
  rfl

/-- What is behind the send in a command: the callback of a `SendSync`. -/
def afterSend (s : Sending) : Action Processors :=
  match s.sync with
  | none => pure w.processors
  | some cb => Proc.effect (.call cb .sent) >>= fun _ ↦ pure w.processors

theorem processCommand_eq (s : Sending) :
    processCommand w.transports w.processors (s.command w.endpoint) s.env =
      (w.register.resource.send s.buffer s.env.send).mapEffects .write >>=
        fun _ ↦ w.afterSend s := by
  have hget : getProcessor w.transports w.endpoint.resourceId = .ok .tcp :=
    getProcessor_eq_ok.2 ⟨w.mounted, w.isTcp⟩
  rw [Sending.command, afterSend]
  cases s.sync with
  | none =>
      rw [processCommand, hget, Proc.ofExcept_ok_bind, processSend_eq, bind_assoc]
      rfl
  | some cb =>
      rw [processCommand, hget, Proc.ofExcept_ok_bind, processSend_eq, bind_assoc]
      rfl

/-- The bytes that one command writes. -/
theorem bytesTo_processCommand (s : Sending) :
    bytesTo w.register.resource.stream
      (processCommand w.transports w.processors (s.command w.endpoint) s.env).effects = s.sent := by
  have hbytes : bytesTo w.register.resource.stream
      ((w.register.resource.send s.buffer s.env.send).mapEffects Effect.write).effects =
        s.sent := by
    have hstream : ∀ x ∈ (w.register.resource.send s.buffer s.env.send).effects,
        x.stream = w.register.resource.stream :=
      fun x hx ↦ stream_of_mem_sendLoop (Nat.zero_le _) _ _ hx
    rw [Proc.effects_mapEffects, bytesTo_map_write hstream]
    exact bytesWritten_sendLoop _ (Nat.zero_le _) _ _
  have hafter : bytesTo w.register.resource.stream (w.afterSend s).effects = [] := by
    rw [afterSend]
    cases s.sync <;> rfl
  rw [processCommand_eq]
  cases hres : ((w.register.resource.send s.buffer s.env.send).mapEffects Effect.write).result with
  | error x => rw [Proc.effects_bind_error hres, hbytes]
  | ok status => rw [Proc.effects_bind_ok hres, bytesTo_append, hbytes, hafter, List.append_nil]

/-- A command returns, with the drivers as they were, unless the calls of `write` run
out first. -/
theorem result_processCommand (s : Sending) :
    (s.Returns ∧ (processCommand w.transports w.processors (s.command w.endpoint) s.env).result =
        .ok w.processors) ∨
      ¬ s.Returns ∧ ∃ x,
        (processCommand w.transports w.processors (s.command w.endpoint) s.env).result =
          .error x := by
  have hreturns : (∃ status, (w.register.resource.send s.buffer s.env.send).result = .ok status) ↔
      s.Returns := by
    rw [Sending.Returns, ← Nat.zero_add (List.sum _)]
    exact sendLoop_returns _ (Nat.zero_le _) _ _
  rw [processCommand_eq]
  cases hres : (w.register.resource.send s.buffer s.env.send).result with
  | error x =>
      have hres' : ((w.register.resource.send s.buffer s.env.send).mapEffects
        Effect.write).result = .error x := hres
      refine .inr ⟨fun h ↦ ?_, x, Proc.result_bind_error hres' _⟩
      obtain ⟨status, hok⟩ := hreturns.2 h
      rw [hres] at hok
      cases hok
  | ok status =>
      have hres' : ((w.register.resource.send s.buffer s.env.send).mapEffects
        Effect.write).result = .ok status := hres
      refine .inl ⟨hreturns.1 ⟨status, hres⟩, ?_⟩
      rw [Proc.result_bind_ok hres', afterSend]
      cases s.sync <;> rfl

theorem written_eq (sends : List Sending) :
    w.written sends = (Sending.begun sends).map Sending.sent := by
  induction sends with
  | nil => rfl
  | cons s more ih =>
      rw [written, writtenEach, bytesTo_processCommand, Sending.begun, List.map_cons]
      rcases w.result_processCommand s with ⟨hret, hres⟩ | ⟨hret, x, hres⟩
      · rw [hres, if_pos hret]
        exact congrArg _ ih
      · rw [hres, if_neg hret]
        rfl

end ReadyRemote

/-! ## The order of messages -/

theorem Sending.begun_prefix (sends : List Sending) : begun sends <+: sends := by
  induction sends with
  | nil => exact List.prefix_refl _
  | cons s more ih =>
      rw [begun, List.cons_prefix_cons]
      refine ⟨rfl, ?_⟩
      split
      · exact ih
      · exact List.nil_prefix

/-- Fronts of messages make a front of all of them, if only the last that is not empty is
cut. -/
theorem flatten_prefix_of_pairwise {sends : List Sending}
    (h : sends.Pairwise fun s t ↦ t.TakesByte → s.Completes) :
    (sends.map Sending.sent).flatten <+: (sends.map Sending.buffer).flatten := by
  induction h with
  | nil => exact List.prefix_refl _
  | @cons s more hs _ ih =>
      rw [List.map_cons, List.flatten_cons, List.map_cons, List.flatten_cons]
      by_cases hc : s.Completes
      · rw [Sending.sent_eq_buffer.2 hc]
        exact (List.prefix_append_right_inj _).2 ih
      · have hnone : (more.map Sending.sent).flatten = [] := by
          refine List.flatten_eq_nil_iff.2 fun l hl ↦ ?_
          obtain ⟨t, ht, rfl⟩ := List.mem_map.1 hl
          by_contra hne
          exact hc (hs t ht (Sending.sent_ne_nil.1 hne))
        rw [hnone, List.append_nil]
        exact (List.take_prefix _ _).trans (List.prefix_append _ _)

/-- **Messages are in order exactly if no send that takes a byte comes behind one that
was cut short.** -/
theorem ReadyRemote.in_order_iff (w : ReadyRemote) (sends : List Sending) :
    InOrder (sends.map Sending.buffer) (w.written sends) ↔
      (Sending.begun sends).Pairwise fun s t ↦ t.TakesByte → s.Completes := by
  have hzip : (sends.map Sending.buffer).zip (w.written sends) =
      (Sending.begun sends).map fun s ↦ (s.buffer, s.sent) := by
    obtain ⟨rest, hrest⟩ := Sending.begun_prefix sends
    rw [w.written_eq, ← List.zip_map']
    conv_lhs => rw [← hrest, List.map_append]
    rw [hrest, ← List.append_nil ((Sending.begun sends).map Sending.sent),
      List.zip_append (by rw [List.length_map, List.length_map]), List.zip_nil_right,
      List.append_nil, List.append_nil]
  have hpair : ((sends.map Sending.buffer).zip (w.written sends)).Pairwise
        (fun a b ↦ b.2 ≠ [] → a.2 = a.1) ↔
      (Sending.begun sends).Pairwise fun s t ↦ t.TakesByte → s.Completes := by
    rw [hzip, List.pairwise_map]
    simp only [Sending.sent_ne_nil, Sending.sent_eq_buffer]
  rw [InOrder, hpair, and_iff_right_iff_imp]
  intro h
  rw [w.written_eq]
  refine (flatten_prefix_of_pairwise h).trans ?_
  obtain ⟨rest, hrest⟩ := Sending.begun_prefix sends
  rw [← hrest, List.map_append, List.flatten_append, hrest]
  exact List.prefix_append _ _

/-- A worker that has nothing but one remote, ready to use. -/
def ReadyRemote.single : ReadyRemote where
  transports := [.tcp]
  processors := Function.update Processors.new .tcp
    ⟨ResourceRegistry.new.register ⟨1⟩ ⟨⟨0⟩, none⟩ ⟨.localhost 80, none, true⟩, .new⟩
  endpoint := ⟨⟨1⟩, .localhost 80⟩
  register := ⟨⟨⟨0⟩, none⟩, ⟨.localhost 80, none, true⟩⟩
  mounted := List.mem_cons_self
  isTcp := by decide
  isRemote := by decide
  registered := rfl
  ready := rfl

/-- A message of two bytes is cut after the first one by a signal that interrupts the
second call; the byte of the next message follows it. -/
theorem not_in_order_interrupted :
    let sends : List Sending :=
      [⟨[1, 2], none, .fine [.ok 1, .err .interrupted]⟩, ⟨[3], none, .fine [.ok 1]⟩]
    ReadyRemote.single.written sends = [[1], [3]] ∧
      ¬ InOrder (sends.map Sending.buffer) (ReadyRemote.single.written sends) := by
  intro sends
  have hwritten : ReadyRemote.single.written sends = [[1], [3]] := by decide
  refine ⟨hwritten, fun h ↦ ?_⟩
  have hprefix := h.1
  rw [hwritten] at hprefix
  revert hprefix
  decide

end MessageIo
