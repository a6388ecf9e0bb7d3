import Mathlib.Data.List.TakeDrop
import MessageIo.Network.Driver

/-!
# The TCP adapter (`adapters/tcp`)

The socket calls that set up a connection or a listener come in the same order in
all three adapters.  They stand here once, with what the TLS adapter does on top
of them as a parameter.

`RemoteResource::send` waits actively: it calls `write` at most 1000 times and
then gives up, with the data partly sent.
-/

namespace MessageIo

/-! ## Setting up sockets -/

/-- The domain of an address. -/
def SocketAddr.domain : SocketAddr → Domain
  | v4 .. => .ipv4
  | v6 .. => .ipv6

/-- `CString::new`: text with a NUL in it is refused. -/
def cString (s : String) : IoResult String :=
  if '\x00' ∈ s.toList then .error ⟨.invalidInput, none⟩ else .ok s

/-- Bind the socket to the source address, if there is one. -/
def bindSource (sourceAddressOpt : Option SocketAddr) (bind : SocketAddr → IoResult Unit) :
    IoResult Unit :=
  match sourceAddressOpt with
  | some sourceAddress => bind sourceAddress
  | none => .ok ()

/-- Bind the socket to a device, if there is one. -/
def bindToDevice (bindDeviceOpt : Option String) (bindDevice : String → IoResult Unit) :
    IoResult Unit :=
  match bindDeviceOpt with
  | some device => cString device >>= bindDevice
  | none => .ok ()

/-- Start to connect: a connection that is in progress is fine. -/
def startConnect (connect : IoResult Unit) : IoResult Unit :=
  match connect with
  | .error e => if e.rawOsError ≠ some einprogress then .error e else .ok ()
  | .ok () => .ok ()

/-- What the three `*_remote_connect_with` have in common; `domainOpt` is asked for when
the stream is there. -/
def remoteConnectWith (config : ConnectConfig) (peerAddr : SocketAddr)
    (domainOpt : IoResult (Option String)) (env : ConnectEnv) : IoResult ConnectionInfo := do
  env.newSocket peerAddr.domain
  env.setNonblocking
  env.setNodelay
  bindSource config.sourceAddressOpt env.bind
  bindToDevice config.bindDeviceOpt env.bindDevice
  startConnect (env.connect peerAddr)
  let localAddr ← env.localAddr
  let domainOpt ← domainOpt
  return ⟨env.stream, localAddr, peerAddr, config.keepaliveOpt, domainOpt⟩

/-- The socket of a listener, up to `listen`. -/
def listeningSocket (config : ListenConfig) (addr : SocketAddr) (env : ListenEnv) :
    IoResult TcpListener := do
  env.newSocket addr.domain
  env.setNonblocking
  env.setNodelay
  env.setReuseAddress
  bindToDevice config.bindDeviceOpt env.bindDevice
  env.bind addr
  env.listen
  return env.listener

/-! ## What reading, accepting and readiness mean -/

/-- Check if a `TcpStream` can be considered connected. -/
def checkTcpStreamReady (env : PendingEnv) : PendingStatus :=
  match env.takeError with
  | .ok (some _) => .disconnected
  | _ =>
      match env.peerAddr with
      | .ok _ => .ready
      | .error err =>
          if err.kind = .notConnected then .incomplete
          else if err.kind = .invalidInput then .incomplete
          else .disconnected

/-- One turn of a loop that reads from a stream. -/
def readTurn : ReadCall → ReceiveTurn
  | .ok [] => .done .disconnected
  | .ok data => .received data
  | .err .interrupted => .again
  | .err .wouldBlock => .done .waitNextEvent
  | .err .connectionReset => .done .disconnected
  | .err _ => .done .disconnected

/-- One turn of a loop that accepts streams. -/
def acceptStreamTurn (payload : Payload) : AcceptCall → AcceptTurn
  | .ok stream addr => .accepted (.remote addr stream payload)
  | .err .wouldBlock => .done
  | .err .interrupted => .again
  | .err _ => .done

/-! ## Sending -/

/-- The loop that sends `data` over a stream, with the attempts that are left and the
bytes sent so far. -/
def sendLoop (stream : TcpStream) (data : Bytes) : Nat → Nat → List WriteCall →
    Proc Written Halt SendStatus
  | 0, _, _ => return .sendAbort
  | _ + 1, _, [] => .halt .running
  | attempts + 1, totalBytesSent, call :: calls =>
      match sliceFrom data totalBytesSent with
      | .error _ => .halt (.panic .slice)
      | .ok rest =>
          match call with
          | .ok n => do
              let bytesSent := min n rest.length
              Proc.effect ⟨stream, rest.take bytesSent⟩
              if totalBytesSent + bytesSent = data.length then return .sent
              else sendLoop stream data attempts (totalBytesSent + bytesSent) calls
          | .err .wouldBlock => sendLoop stream data attempts totalBytesSent calls
          | .err _ => return .resourceNotFound

/-- The bytes that a stream took, in order. -/
def bytesWritten (ws : List Written) : Bytes := ws.flatMap Written.data

namespace WriteCall

/-- An error that ends a send. -/
def isFatal : WriteCall → Bool
  | ok _ => false
  | err kind => kind ≠ .wouldBlock

/-- A call that takes bytes. -/
def isOk : WriteCall → Bool
  | ok _ => true
  | err _ => false

/-- The bytes that a call takes. -/
def count : WriteCall → Nat
  | ok n => n
  | err _ => 0

/-- The bytes that calls take, up to the last attempt and to the first fatal error. -/
def accepted : Nat → List WriteCall → Nat
  | 0, _ => 0
  | _ + 1, [] => 0
  | attempts + 1, call :: calls =>
      if call.isFatal then 0 else call.count + accepted attempts calls

theorem exists_ok_of_sum_pos {calls : List WriteCall} (h : 0 < (calls.map count).sum) :
    ∃ call ∈ calls, call.isOk := by
  induction calls with
  | nil => cases h
  | cons call calls ih =>
      cases call with
      | ok n => exact ⟨_, List.mem_cons_self, rfl⟩
      | err kind =>
          rw [List.map_cons, List.sum_cons, count, Nat.zero_add] at h
          obtain ⟨call, hcall, hok⟩ := ih h
          exact ⟨call, List.mem_cons_of_mem _ hcall, hok⟩

end WriteCall

/-- What one turn of the loop does when the stream takes bytes. -/
theorem sendLoop_ok {stream : TcpStream} {data : Bytes} {total : Nat} (h : total ≤ data.length)
    (attempts n : Nat) (calls : List WriteCall) :
    sendLoop stream data (attempts + 1) total (.ok n :: calls) =
      ⟨⟨stream, (data.drop total).take (min n (data.length - total))⟩ ::
        (if data.length ≤ total + n then (pure .sent : Proc Written Halt SendStatus)
          else sendLoop stream data attempts (total + n) calls).effects,
        (if data.length ≤ total + n then (pure .sent : Proc Written Halt SendStatus)
          else sendLoop stream data attempts (total + n) calls).result⟩ := by
  rw [sendLoop, sliceFrom_of_le h]
  by_cases hn : data.length ≤ total + n
  · have hmin : min n (data.length - total) = data.length - total := by omega
    simp only [List.length_drop, hmin, if_pos hn, if_pos (show total + (data.length - total) =
      data.length by omega)]
    rfl
  · have hmin : min n (data.length - total) = n := by omega
    simp only [List.length_drop, hmin, if_neg hn, if_neg (show ¬ total + n = data.length by omega)]
    rfl

theorem sendLoop_wouldBlock {stream : TcpStream} {data : Bytes} {total : Nat}
    (h : total ≤ data.length) (attempts : Nat) (calls : List WriteCall) :
    sendLoop stream data (attempts + 1) total (.err .wouldBlock :: calls) =
      sendLoop stream data attempts total calls := by
  rw [sendLoop, sliceFrom_of_le h]

theorem sendLoop_fatal {stream : TcpStream} {data : Bytes} {total : Nat}
    (h : total ≤ data.length) (attempts : Nat) {call : WriteCall} (hcall : call.isFatal)
    (calls : List WriteCall) :
    sendLoop stream data (attempts + 1) total (call :: calls) = pure .resourceNotFound := by
  cases call with
  | ok n => cases hcall
  | err kind =>
      rw [sendLoop, sliceFrom_of_le h]
      cases kind <;> first | rfl | cases hcall

/-- An error that is not fatal is `WouldBlock`. -/
theorem WriteCall.eq_wouldBlock {kind : ErrorKind} (h : ¬ (WriteCall.err kind).isFatal) :
    kind = .wouldBlock := by
  by_contra hne
  exact h (decide_eq_true hne)

/-- **A rule for the loop of a send**: one case for each way it ends, and one for each way it goes
on. -/
theorem sendLoop_induction {data : Bytes} {P : Nat → Nat → List WriteCall → Prop}
    (zero : ∀ total calls, total ≤ data.length → P 0 total calls)
    (nil : ∀ attempts total, P (attempts + 1) total [])
    (fatal : ∀ attempts total call calls, total ≤ data.length → call.isFatal →
      P (attempts + 1) total (call :: calls))
    (wouldBlock : ∀ attempts total calls, total ≤ data.length → P attempts total calls →
      P (attempts + 1) total (.err .wouldBlock :: calls))
    (last : ∀ attempts total n calls, total ≤ data.length → data.length ≤ total + n →
      P (attempts + 1) total (.ok n :: calls))
    (more : ∀ attempts total n calls, total + n < data.length → P attempts (total + n) calls →
      P (attempts + 1) total (.ok n :: calls))
    {total : Nat} (h : total ≤ data.length) (attempts : Nat) (calls : List WriteCall) :
    P attempts total calls := by
  induction attempts generalizing total calls with
  | zero => exact zero total calls h
  | succ attempts ih =>
      cases calls with
      | nil => exact nil attempts total
      | cons call calls =>
          by_cases hfatal : call.isFatal
          · exact fatal attempts total call calls h hfatal
          · cases call with
            | err kind =>
                obtain rfl := WriteCall.eq_wouldBlock hfatal
                exact wouldBlock attempts total calls h (ih h calls)
            | ok n =>
                rcases Nat.lt_or_ge (total + n) data.length with hlt | hge
                · exact more attempts total n calls hlt (ih hlt.le calls)
                · exact last attempts total n calls h hge

/-- The last turn of the loop. -/
theorem sendLoop_last {stream : TcpStream} {data : Bytes} {total n : Nat}
    (h : total ≤ data.length) (hn : data.length ≤ total + n) (attempts : Nat)
    (calls : List WriteCall) :
    sendLoop stream data (attempts + 1) total (.ok n :: calls) =
      ⟨[⟨stream, data.drop total⟩], .ok .sent⟩ := by
  have hlen : (data.drop total).length ≤ min n (data.length - total) := by
    rw [List.length_drop]
    omega
  rw [sendLoop_ok h, if_pos hn, List.take_of_length_le hlen]
  rfl

/-- A turn after which there is more to send. -/
theorem sendLoop_more {stream : TcpStream} {data : Bytes} {total n : Nat}
    (hn : total + n < data.length) (attempts : Nat) (calls : List WriteCall) :
    sendLoop stream data (attempts + 1) total (.ok n :: calls) =
      ⟨⟨stream, (data.drop total).take n⟩ ::
        (sendLoop stream data attempts (total + n) calls).effects,
        (sendLoop stream data attempts (total + n) calls).result⟩ := by
  rw [sendLoop_ok (by omega), if_neg (Nat.not_le.2 hn), Nat.min_eq_left (by omega)]

/-- Only the stream of the send is written to. -/
theorem stream_of_mem_sendLoop {stream : TcpStream} {data : Bytes} {total : Nat}
    (h : total ≤ data.length) (attempts : Nat) (calls : List WriteCall) {w : Written}
    (hw : w ∈ (sendLoop stream data attempts total calls).effects) : w.stream = stream := by
  revert hw
  refine sendLoop_induction (P := fun attempts total calls ↦
    w ∈ (sendLoop stream data attempts total calls).effects → w.stream = stream)
    ?_ ?_ ?_ ?_ ?_ ?_ h attempts calls
  · exact fun _ _ _ hw ↦ nomatch hw
  · exact fun _ _ hw ↦ nomatch hw
  · intro attempts total call calls h hfatal hw
    rw [sendLoop_fatal h attempts hfatal] at hw
    cases hw
  · intro attempts total calls h ih hw
    rw [sendLoop_wouldBlock h] at hw
    exact ih hw
  · intro attempts total n calls h hn hw
    rw [sendLoop_last h hn] at hw
    rw [List.mem_singleton.1 hw]
  · intro attempts total n calls hn ih hw
    rw [sendLoop_more hn] at hw
    rcases List.mem_cons.1 hw with rfl | hw
    · rfl
    · exact ih hw

/-- **The bytes of one send** are the front of the data, as long as the calls take it. -/
theorem bytesWritten_sendLoop (stream : TcpStream) {data : Bytes} {total : Nat}
    (h : total ≤ data.length) (attempts : Nat) (calls : List WriteCall) :
    bytesWritten (sendLoop stream data attempts total calls).effects =
      (data.drop total).take (WriteCall.accepted attempts calls) := by
  refine sendLoop_induction (P := fun attempts total calls ↦
    bytesWritten (sendLoop stream data attempts total calls).effects =
      (data.drop total).take (WriteCall.accepted attempts calls)) ?_ ?_ ?_ ?_ ?_ ?_ h attempts calls
  · exact fun _ _ _ ↦ rfl
  · exact fun _ _ ↦ rfl
  · intro attempts total call calls h hfatal
    rw [sendLoop_fatal h attempts hfatal, WriteCall.accepted, if_pos hfatal]
    rfl
  · intro attempts total calls h ih
    have hfatal : ¬ (WriteCall.err .wouldBlock).isFatal := Bool.false_ne_true
    rw [sendLoop_wouldBlock h, ih, WriteCall.accepted, if_neg hfatal, WriteCall.count, Nat.zero_add]
  · intro attempts total n calls h hn
    have hfatal : ¬ (WriteCall.ok n).isFatal := Bool.false_ne_true
    rw [sendLoop_last h hn, WriteCall.accepted, if_neg hfatal, WriteCall.count,
      List.take_of_length_le (by rw [List.length_drop]; omega)]
    exact List.append_nil _
  · intro attempts total n calls hn ih
    have hfatal : ¬ (WriteCall.ok n).isFatal := Bool.false_ne_true
    rw [sendLoop_more hn, WriteCall.accepted, if_neg hfatal, WriteCall.count, bytesWritten,
      List.flatMap_cons]
    change _ ++ bytesWritten (sendLoop stream data attempts (total + n) calls).effects = _
    rw [ih, ← List.drop_drop, List.take_add]

/-- A send returns unless the calls run out first. -/
theorem sendLoop_returns (stream : TcpStream) {data : Bytes} {total : Nat}
    (h : total ≤ data.length) (attempts : Nat) (calls : List WriteCall) :
    (∃ status, (sendLoop stream data attempts total calls).result = .ok status) ↔
      attempts ≤ calls.length ∨ (∃ call ∈ calls, call.isFatal) ∨
        (∃ call ∈ calls, call.isOk) ∧ data.length ≤ total + (calls.map WriteCall.count).sum := by
  -- Behind a call that is not fatal, the calls that are left decide.
  have hcons : ∀ {call : WriteCall} {calls : List WriteCall}, ¬ call.isFatal →
      ((∃ c ∈ call :: calls, c.isFatal = true) ↔ ∃ c ∈ calls, c.isFatal = true) := by
    intro call calls hfatal
    rw [List.exists_mem_cons_iff]
    exact or_iff_right hfatal
  refine sendLoop_induction (P := fun attempts total calls ↦
    (∃ status, (sendLoop stream data attempts total calls).result = .ok status) ↔
      attempts ≤ calls.length ∨ (∃ call ∈ calls, call.isFatal) ∨
        (∃ call ∈ calls, call.isOk) ∧ data.length ≤ total + (calls.map WriteCall.count).sum)
    ?_ ?_ ?_ ?_ ?_ ?_ h attempts calls
  · exact fun _ _ _ ↦ ⟨fun _ ↦ .inl (Nat.zero_le _), fun _ ↦ ⟨_, rfl⟩⟩
  · intro attempts total
    constructor
    · rintro ⟨status, hres⟩
      cases hres
    · rintro (hlen | ⟨call, hcall, -⟩ | ⟨⟨call, hcall, -⟩, -⟩)
      · cases hlen
      · cases hcall
      · cases hcall
  · intro attempts total call calls h hfatal
    rw [sendLoop_fatal h attempts hfatal]
    exact ⟨fun _ ↦ .inr (.inl ⟨call, List.mem_cons_self, hfatal⟩), fun _ ↦ ⟨_, rfl⟩⟩
  · intro attempts total calls h ih
    have hnot : ¬ (WriteCall.err .wouldBlock).isOk := Bool.false_ne_true
    rw [hcons (by exact Bool.false_ne_true), List.map_cons, List.sum_cons, List.length_cons,
      Nat.succ_le_succ_iff, sendLoop_wouldBlock h, ih, WriteCall.count, Nat.zero_add,
      List.exists_mem_cons_iff, or_iff_right hnot]
  · intro attempts total n calls h hn
    rw [sendLoop_last h hn, List.map_cons, List.sum_cons, WriteCall.count]
    exact ⟨fun _ ↦ .inr (.inr ⟨⟨_, List.mem_cons_self, rfl⟩, by omega⟩), fun _ ↦ ⟨_, rfl⟩⟩
  · intro attempts total n calls hn ih
    have hok : ∃ c ∈ WriteCall.ok n :: calls, c.isOk := ⟨_, List.mem_cons_self, rfl⟩
    rw [hcons (by exact Bool.false_ne_true), List.map_cons, List.sum_cons, List.length_cons,
      Nat.succ_le_succ_iff, sendLoop_more hn, WriteCall.count]
    change (∃ status, (sendLoop stream data attempts (total + n) calls).result = .ok status) ↔ _
    rw [ih]
    refine or_congr Iff.rfl (or_congr Iff.rfl ⟨?_, ?_⟩)
    · rintro ⟨-, hsum⟩
      exact ⟨hok, by omega⟩
    · rintro ⟨-, hsum⟩
      exact ⟨WriteCall.exists_ok_of_sum_pos (by omega), by omega⟩

/-- A send that does not return goes on calling `write`; no slice is out of range. -/
theorem sendLoop_halts (stream : TcpStream) {data : Bytes} {total : Nat} (h : total ≤ data.length)
    (attempts : Nat) (calls : List WriteCall) {x : Halt}
    (hx : (sendLoop stream data attempts total calls).result = .error x) : x = .running := by
  revert hx
  refine sendLoop_induction (P := fun attempts total calls ↦
    (sendLoop stream data attempts total calls).result = .error x → x = .running)
    ?_ ?_ ?_ ?_ ?_ ?_ h attempts calls
  · exact fun _ _ _ hx ↦ nomatch hx
  · rintro attempts total ⟨⟩
    rfl
  · intro attempts total call calls h hfatal hx
    rw [sendLoop_fatal h attempts hfatal] at hx
    cases hx
  · intro attempts total calls h ih hx
    rw [sendLoop_wouldBlock h] at hx
    exact ih hx
  · intro attempts total n calls h hn hx
    rw [sendLoop_last h hn] at hx
    cases hx
  · intro attempts total n calls hn ih hx
    rw [sendLoop_more hn] at hx
    exact ih hx

/-- **A send reports success** exactly if the calls take all that there is to send. -/
theorem result_sendLoop_sent (stream : TcpStream) {data : Bytes} {total : Nat}
    (h : total < data.length) (attempts : Nat) (calls : List WriteCall) :
    (sendLoop stream data attempts total calls).result = .ok .sent ↔
      data.length ≤ total + WriteCall.accepted attempts calls := by
  revert h
  refine fun h ↦ sendLoop_induction (P := fun attempts total calls ↦ total < data.length →
    ((sendLoop stream data attempts total calls).result = .ok .sent ↔
      data.length ≤ total + WriteCall.accepted attempts calls))
    ?_ ?_ ?_ ?_ ?_ ?_ h.le attempts calls h
  · exact fun total calls _ h ↦ ⟨fun hx ↦ (nomatch hx), fun hle ↦ absurd hle (Nat.not_le.2 h)⟩
  · exact fun attempts total h ↦ ⟨fun hx ↦ (nomatch hx), fun hle ↦ absurd hle (Nat.not_le.2 h)⟩
  · intro attempts total call calls hle hfatal h
    rw [sendLoop_fatal hle attempts hfatal, WriteCall.accepted, if_pos hfatal]
    exact ⟨fun hx ↦ (nomatch hx), fun hle ↦ absurd hle (Nat.not_le.2 h)⟩
  · intro attempts total calls hle ih h
    have hfatal : ¬ (WriteCall.err .wouldBlock).isFatal := Bool.false_ne_true
    rw [sendLoop_wouldBlock hle, WriteCall.accepted, if_neg hfatal, WriteCall.count, Nat.zero_add]
    exact ih h
  · intro attempts total n calls hle hn h
    have hfatal : ¬ (WriteCall.ok n).isFatal := Bool.false_ne_true
    rw [sendLoop_last hle hn, WriteCall.accepted, if_neg hfatal, WriteCall.count]
    exact ⟨fun _ ↦ by omega, fun _ ↦ rfl⟩
  · intro attempts total n calls hn ih h
    have hfatal : ¬ (WriteCall.ok n).isFatal := Bool.false_ne_true
    rw [sendLoop_more hn, WriteCall.accepted, if_neg hfatal, WriteCall.count, ← Nat.add_assoc]
    exact ih hn

/-! ### The calls of `write` -/

/-- A call of `write`: what it is offered, and what it answers. -/
structure WriteAttempt where
  offered : Bytes
  call : WriteCall
deriving DecidableEq, Repr

/-- What a call of `write` leaves on the stream. -/
def WriteAttempt.written (stream : TcpStream) (a : WriteAttempt) : Option Written :=
  match a.call with
  | .ok n => some ⟨stream, a.offered.take n⟩
  | .err _ => none

/-- The calls of `write` that `sendLoop` makes. -/
def sendAttempts (data : Bytes) : Nat → Nat → List WriteCall → List WriteAttempt
  | 0, _, _ => []
  | _ + 1, _, [] => []
  | attempts + 1, totalBytesSent, call :: calls =>
      match sliceFrom data totalBytesSent with
      | .error _ => []
      | .ok rest =>
          ⟨rest, call⟩ ::
            match call with
            | .ok n =>
                let bytesSent := min n rest.length
                if totalBytesSent + bytesSent = data.length then []
                else sendAttempts data attempts (totalBytesSent + bytesSent) calls
            | .err .wouldBlock => sendAttempts data attempts totalBytesSent calls
            | .err _ => []

/-- What is known of the calls of `write`: there are as many as attempts at most, each is offered
an end of the data, and what they leave on the stream is what the send does. -/
structure Attempts (stream : TcpStream) (data : Bytes) (attempts : Nat)
    (out : Proc Written Halt SendStatus) (as : List WriteAttempt) : Prop where
  length : as.length ≤ attempts
  offered : ∀ a ∈ as, a.offered <:+ data
  effects : out.effects = as.filterMap (WriteAttempt.written stream)

theorem attempts_sendLoop (stream : TcpStream) {data : Bytes} {total : Nat}
    (h : total ≤ data.length) (attempts : Nat) (calls : List WriteCall) :
    Attempts stream data attempts (sendLoop stream data attempts total calls)
      (sendAttempts data attempts total calls) := by
  refine sendLoop_induction (P := fun attempts total calls ↦
    Attempts stream data attempts (sendLoop stream data attempts total calls)
      (sendAttempts data attempts total calls)) ?_ ?_ ?_ ?_ ?_ ?_ h attempts calls
  · exact fun _ _ _ ↦ ⟨Nat.le_refl 0, fun _ ha ↦ (nomatch ha), rfl⟩
  · exact fun _ _ ↦ ⟨Nat.zero_le _, fun _ ha ↦ (nomatch ha), rfl⟩
  · intro attempts total call calls h hfatal
    have hone : sendAttempts data (attempts + 1) total (call :: calls) =
        [⟨data.drop total, call⟩] := by
      cases call with
      | ok n => cases hfatal
      | err kind =>
          rw [sendAttempts, sliceFrom_of_le h]
          cases kind <;> first | rfl | cases hfatal
    rw [sendLoop_fatal h attempts hfatal, hone]
    refine ⟨Nat.succ_le_succ (Nat.zero_le _), fun a ha ↦ ?_, ?_⟩
    · rw [List.mem_singleton.1 ha]
      exact List.drop_suffix total data
    · cases call with
      | ok n => cases hfatal
      | err kind => rfl
  · intro attempts total calls h ih
    have hmore : sendAttempts data (attempts + 1) total (.err .wouldBlock :: calls) =
        ⟨data.drop total, .err .wouldBlock⟩ :: sendAttempts data attempts total calls := by
      rw [sendAttempts, sliceFrom_of_le h]
    rw [sendLoop_wouldBlock h, hmore]
    refine ⟨Nat.succ_le_succ ih.length, fun a ha ↦ ?_, ih.effects⟩
    rcases List.mem_cons.1 ha with rfl | ha
    · exact List.drop_suffix total data
    · exact ih.offered a ha
  · intro attempts total n calls h hn
    have hone : sendAttempts data (attempts + 1) total (.ok n :: calls) =
        [⟨data.drop total, .ok n⟩] := by
      rw [sendAttempts, sliceFrom_of_le h]
      simp only [List.length_drop]
      rw [if_pos (by omega)]
    rw [sendLoop_last h hn, hone]
    refine ⟨Nat.succ_le_succ (Nat.zero_le _), fun a ha ↦ ?_, ?_⟩
    · rw [List.mem_singleton.1 ha]
      exact List.drop_suffix total data
    · have htake : (data.drop total).take n = data.drop total :=
        List.take_of_length_le (by rw [List.length_drop]; omega)
      show [_] = [Written.mk stream ((data.drop total).take n)]
      rw [htake]
  · intro attempts total n calls hn ih
    have hmore : sendAttempts data (attempts + 1) total (.ok n :: calls) =
        ⟨data.drop total, .ok n⟩ :: sendAttempts data attempts (total + n) calls := by
      have hmin : min n (data.length - total) = n := by omega
      rw [sendAttempts, sliceFrom_of_le (by omega)]
      simp only [List.length_drop, hmin]
      rw [if_neg (by omega)]
    rw [sendLoop_more hn, hmore]
    refine ⟨Nat.succ_le_succ ih.length, fun a ha ↦ ?_, congrArg _ ih.effects⟩
    rcases List.mem_cons.1 ha with rfl | ha
    · exact List.drop_suffix total data
    · exact ih.offered a ha

namespace Tcp

/-! ## The resources -/

structure RemoteResource where
  stream : TcpStream
  keepaliveOpt : Option TcpKeepalive
deriving DecidableEq, Repr

structure LocalResource where
  listener : TcpListener
  keepaliveOpt : Option TcpKeepalive
deriving DecidableEq, Repr

/-- The most times that `send` calls `write`. -/
def maxAttempts : Nat := 1000

namespace RemoteResource

/-- `Remote::send` -/
def send (r : RemoteResource) (data : Bytes) (env : SendEnv) : Proc Written Halt SendStatus :=
  sendLoop r.stream data maxAttempts 0 env.writes

/-- `Remote::pending`; the keepalive settings it makes on a ready stream have no
consequence here, as their failure is only logged. -/
def pending (r : RemoteResource) (env : PendingEnv) : PendingStatus × RemoteResource :=
  (checkTcpStreamReady env, r)

/-- **What `send` reports is what reached the stream.**  It is `Sent` exactly if all of the data was
written, once and in order; else the bytes written are a strict prefix.  `write` is called at most
1000 times, always with an end of the data, and after so many calls there is an answer. -/
theorem sent_iff_written (r : RemoteResource) {data : Bytes} (hdata : data ≠ []) (env : SendEnv) :
    ((r.send data env).result = .ok .sent ↔ bytesWritten (r.send data env).effects = data) ∧
      ((r.send data env).result ≠ .ok .sent →
        bytesWritten (r.send data env).effects <+: data ∧
          bytesWritten (r.send data env).effects ≠ data) ∧
      (∀ p, (r.send data env).result ≠ .error (.panic p)) ∧
      (1000 ≤ env.writes.length → ∃ status, (r.send data env).result = .ok status) ∧
      ∃ attempts : List WriteAttempt, attempts = sendAttempts data 1000 0 env.writes ∧
        attempts.length ≤ 1000 ∧ (∀ a ∈ attempts, a.offered <:+ data) ∧
        (r.send data env).effects = attempts.filterMap (WriteAttempt.written r.stream) := by
  have hpos := List.length_pos_of_ne_nil hdata
  have hwritten : bytesWritten (r.send data env).effects =
      data.take (WriteCall.accepted maxAttempts env.writes) :=
    bytesWritten_sendLoop r.stream (Nat.zero_le _) maxAttempts env.writes
  have hsent : (r.send data env).result = .ok .sent ↔
      bytesWritten (r.send data env).effects = data := by
    have hresult := result_sendLoop_sent r.stream hpos maxAttempts env.writes
    rw [Nat.zero_add] at hresult
    rw [hwritten, List.take_eq_self_iff]
    exact hresult
  have hattempts := attempts_sendLoop r.stream (Nat.zero_le data.length) maxAttempts env.writes
  refine ⟨hsent, fun hother ↦ ⟨?_, fun hall ↦ hother (hsent.2 hall)⟩, fun p hp ↦ ?_, fun hlong ↦ ?_,
    _, rfl, hattempts.length, hattempts.offered, hattempts.effects⟩
  · rw [hwritten]
    exact List.take_prefix _ data
  · cases sendLoop_halts r.stream (Nat.zero_le _) maxAttempts env.writes hp
  · exact (sendLoop_returns r.stream (Nat.zero_le _) maxAttempts env.writes).2 (.inl hlong)

/-- Two bytes are sent one by one, with a break between them. -/
theorem sent_iff_written_twoBytes :
    ∃ env : SendEnv,
      bytesWritten ((⟨⟨0⟩, none⟩ : RemoteResource).send [7, 8] env).effects = [7, 8] :=
  ⟨⟨[.ok 1, .err .wouldBlock, .ok 1], []⟩,
    (sent_iff_written ⟨⟨0⟩, none⟩ (List.cons_ne_nil 7 [8])
      ⟨[.ok 1, .err .wouldBlock, .ok 1], []⟩).1.1
      rfl⟩

end RemoteResource

instance : Remote RemoteResource where
  source r := .ok r.stream
  pending r env := .ok (r.pending env)
  receiveTurn r env := .ok (readTurn env.read, r)
  send := RemoteResource.send

/-- `Local::listen_with` -/
def listenWith (config : ListenConfig) (addr : SocketAddr) (env : ListenEnv) :
    Except Halt (IoResult (LocalResource × SocketAddr)) := do
  match listeningSocket config addr env with
  | .error err => return .error err
  | .ok listener =>
      let localAddr ← unwrap env.localAddr
      return .ok (⟨listener, config.keepaliveOpt⟩, localAddr)

instance : Local LocalResource where
  listenWith := listenWith
  acceptTurn l := acceptStreamTurn (.tcpAccept l.keepaliveOpt)

/-! ## The driver -/

def tcpRemoteConnectWith (config : ConnectConfig) (peerAddr : SocketAddr) (env : ConnectEnv) :
    IoResult ConnectionInfo :=
  remoteConnectWith config peerAddr (.ok none) env

instance : Adapter RemoteResource LocalResource where
  connect config raddr env := do
    let peerAddr ← raddr.socketAddr
    return (tcpRemoteConnectWith config peerAddr env).map fun info ↦
      (info, .tcpConnect info.keepaliveOpt)
  acceptedResource stream
    | .tcpAccept keepaliveOpt => .ok ⟨stream, keepaliveOpt⟩
    | _ => .error (.panic .downcast)
  connectedResource stream payload _ :=
    match payload with
    | .tcpConnect keepaliveOpt => .ok ⟨stream, keepaliveOpt⟩
    | _ => .error (.panic .downcast)

end Tcp

/-- The driver of the TCP transport. -/
abbrev TcpDriver := Driver Tcp.RemoteResource Tcp.LocalResource

end MessageIo
