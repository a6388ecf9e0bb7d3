import MessageIo.Handshake.Machine

/-!
# What a handshake reads

A machine that starts to read is to finish with the object of the head that it is sent, and with
what was received behind the head, however both are cut.  It does not: its buffer is never filled,
so each call is interrupted and leaves what has arrived in the stream.

The same holds of the two roles.  A server starts to read and a client does so once its request
is written, and neither comes further.
-/

namespace MessageIo

namespace Ws

/-! ## Streams -/

@[simp] theorem Socket.arrive_nil (s : Socket) : s.arrive [] = s := by
  simp only [arrive, List.map_nil, List.append_nil]

@[simp] theorem Socket.arrive_arrive (s : Socket) (chunks more : List Bytes) :
    (s.arrive chunks).arrive more = s.arrive (chunks ++ more) := by
  simp only [arrive, List.map_append, List.append_assoc]

/-- What arrives can be read, after what was there. -/
@[simp] theorem Socket.unread_arrive (s : Socket) (chunks : List Bytes) :
    (s.arrive chunks).unread = s.unread ++ chunks.flatten := by
  rw [unread, unread, arrive, List.flatMap_append, List.flatMap_map]
  congr 1
  exact List.flatMap_id

/-! ## A machine that starts to read -/

section Machine

variable {Obj : Type} [TryParse Obj]

/-- Without a byte in its buffer, a machine that reads would block, whatever its stream holds. -/
theorem HandshakeMachine.singleRound_reading_nil (stream : Socket) (check : AttackCheck) :
    (HandshakeMachine.singleRound ⟨stream, .reading [] check⟩ : Except Failure (RoundResult Obj)) =
      .ok (.wouldBlock ⟨stream, .reading [] check⟩) := rfl

/-- What comes behind the missing read is right: of a buffer that begins with a head the machine
returns the object, and the rest. -/
theorem HandshakeMachine.singleRound_head {stream : Socket} {head tail : Bytes}
    {check check' : AttackCheck} {obj : Obj} (hhead : head ≠ [])
    (hcheck : check.checkIncomingPacketSize (head ++ tail).length = .ok check')
    (hparse : TryParse.tryParse (head ++ tail) = .ok (some (head.length, obj))) :
    HandshakeMachine.singleRound ⟨stream, .reading (head ++ tail) check⟩ =
      .ok (.stageFinished (.doneReading obj stream tail)) := by
  have hcount : (head ++ tail).length ≠ 0 := by
    intro h
    exact hhead (List.append_eq_nil_iff.mp (List.length_eq_zero_iff.mp h)).1
  rw [singleRound]
  simp only [if_neg hcount, hcheck, hparse, bind, Except.bind, List.drop_left]
  rfl

end Machine

section Role

variable {ρ Obj Result : Type} [TryParse Obj] [HandshakeRole ρ Obj Result]

/-- A call of a handshake that is about to read is interrupted, and has done nothing. -/
theorem MidHandshake.handshake_reading_nil (fuel : Nat) (role : ρ) (stream : Socket)
    (check : AttackCheck) :
    handshake (fuel + 1) ⟨role, stream, .reading [] check⟩ =
      .error (.interrupted ⟨role, stream, .reading [] check⟩) := rfl

/-- So are all calls, and what has arrived meanwhile is still in the stream. -/
theorem MidHandshake.resumed_startRead (fuel : Nat) (role : ρ) (stream : Socket)
    (arrivals : List (List Bytes)) :
    resumed (fuel + 1) arrivals ⟨role, .startRead stream⟩ =
      .error (.interrupted ⟨role, .startRead (stream.arrive arrivals.flatten)⟩) := by
  induction arrivals generalizing stream with
  | nil =>
      rw [resumed, List.flatten_nil, Socket.arrive_nil]
  | cons chunks arrivals ih =>
      have hcall : (arrive ⟨role, .startRead stream⟩ chunks).handshake (fuel + 1) =
          .error (.interrupted ⟨role, .startRead (stream.arrive chunks)⟩) :=
        handshake_reading_nil fuel role (stream.arrive chunks) .new
      rw [resumed, hcall]
      show resumed (fuel + 1) arrivals ⟨role, .startRead (stream.arrive chunks)⟩ = _
      rw [ih, Socket.arrive_arrive, List.flatten_cons]

/-- Without fuel, a handshake does not return. -/
theorem MidHandshake.resumed_zero (mid : MidHandshake ρ) (arrivals : List (List Bytes))
    (result : Result) : resumed 0 arrivals mid ≠ .ok result := by
  cases arrivals <;> exact fun h ↦ nomatch h

/-- **A handshake that starts to read is never done**, whatever its role and however long it is
resumed. -/
theorem MidHandshake.startRead_never_done (fuel : Nat) (role : ρ) (stream : Socket)
    (arrivals : List (List Bytes)) (result : Result) :
    resumed fuel arrivals ⟨role, .startRead stream⟩ ≠ .ok result := by
  cases fuel with
  | zero => exact resumed_zero _ _ _
  | succ fuel =>
      rw [resumed_startRead]
      exact fun h ↦ nomatch h

end Role

/-! ## Heads -/

/-- A role that is done with the first stage that is finished. -/
structure FirstStage (Obj : Type) where

instance {Obj : Type} : HandshakeRole (FirstStage Obj) Obj (StageResult Obj) where
  stageFinished role finish := .ok (.done finish, role)

section Heads

variable {Obj : Type} [TryParse Obj]

/-- A stream delivers a head: it is complete, but no part of it is, and its chunks are none that an
attack is made of. -/
structure Delivers (head : Bytes) (obj : Obj) (arrivals : List (List Bytes)) : Prop where
  accepted : TryParse.tryParse head = .ok (some (head.length, obj))
  complete : ∀ n < head.length, (TryParse.tryParse (head.take n) : Except _ (Option (Nat × Obj))) =
    .ok none
  short : head.length ≤ AttackCheck.maxBytes
  delivered : head <+: arrivals.flatten.flatten
  nonempty : ∀ chunk ∈ arrivals.flatten, chunk ≠ []
  limits : ∃ check, (arrivals.flatten.map List.length).foldlM AttackCheck.checkIncomingPacketSize
    AttackCheck.new = .ok check

/-- A machine that starts to read finishes with the object of a head, and with what it has received
behind the head. -/
def ReadsHead (head : Bytes) (obj : Obj) (arrivals : List (List Bytes)) (stream : Socket) : Prop :=
  ∃ fuel stream' tail,
    MidHandshake.resumed fuel arrivals ⟨(⟨⟩ : FirstStage Obj), .startRead stream⟩ =
      .ok (.doneReading obj stream' tail) ∧
    head ++ tail ++ stream'.unread = stream.unread ++ arrivals.flatten.flatten

/-- **No head is read**, whatever it is, however it arrives and whatever the stream is. -/
theorem not_readsHead (head : Bytes) (obj : Obj) (arrivals : List (List Bytes)) (stream : Socket) :
    ¬ ReadsHead head obj arrivals stream := by
  rintro ⟨fuel, stream', tail, hdone, _⟩
  exact MidHandshake.startRead_never_done fuel _ stream arrivals _ hdone

end Heads

/-- A text that ends with its first `?`. -/
structure Question where
  text : Bytes
deriving DecidableEq, Repr

instance : TryParse Question where
  tryParse data :=
    let size := data.idxOf 63 + 1
    .ok (if size ≤ data.length then some (size, ⟨data.take size⟩) else none)

/-- A question that arrives in two chunks is not read. -/
theorem question_not_read :
    Delivers (Utf8.encode "ws?") (⟨Utf8.encode "ws?"⟩ : Question)
      [[], [Utf8.encode "w"], [Utf8.encode "s?"]] ∧
    ¬ ReadsHead (Utf8.encode "ws?") (⟨Utf8.encode "ws?"⟩ : Question)
      [[], [Utf8.encode "w"], [Utf8.encode "s?"]] (.new ⟨[], [], [], []⟩) := by
  constructor
  · constructor
    · decide +kernel
    · decide +kernel
    · decide +kernel
    · decide +kernel
    · decide +kernel
    · exact ⟨⟨2, 3⟩, by decide +kernel⟩
  · rintro ⟨fuel, stream', tail, hdone, _⟩
    exact MidHandshake.startRead_never_done fuel _ _ _ _ hdone

/-! ## Client and server -/

namespace HandshakeMachine

/-- A machine has nothing in its buffer if it reads. -/
def Blind (m : HandshakeMachine) : Prop := ∀ buf check, m.state = .reading buf check → buf = []

theorem blind_startRead (stream : Socket) : (startRead stream).Blind := by
  rintro buf check ⟨⟩
  rfl

theorem blind_writing (stream : Socket) (buf : Bytes) : Blind ⟨stream, .writing buf⟩ :=
  fun _ _ h ↦ nomatch h

/-- A round of such a machine finishes no stage but that of writing, and goes on with such a
machine. -/
theorem Blind.singleRound {Obj : Type} [TryParse Obj] {m : HandshakeMachine} (h : m.Blind)
    {r : RoundResult Obj} (hr : m.singleRound = .ok r) :
    (∃ m', (r = .wouldBlock m' ∨ r = .incomplete m') ∧ m'.Blind) ∨
      ∃ stream, r = .stageFinished (.doneWriting stream) := by
  obtain ⟨stream, state⟩ := m
  cases state with
  | reading buf check =>
      obtain rfl := h buf check rfl
      rw [singleRound_reading_nil] at hr
      cases hr
      exact .inl ⟨_, .inl rfl, h⟩
  | writing buf =>
      simp only [HandshakeMachine.singleRound] at hr
      split at hr
      · cases hr
      · split at hr
        · split at hr
          · cases hr
          · split at hr
            · cases hr
              exact .inl ⟨_, .inr rfl, blind_writing _ _⟩
            · cases hr
              exact .inr ⟨_, rfl⟩
        · cases hr
          exact .inl ⟨_, .inl rfl, blind_writing _ _⟩
        · cases hr

end HandshakeMachine

namespace ClientHandshake

variable {Response : Type} [TryParse Response]

/-- A call of such a handshake does not end it, and leaves it so. -/
theorem handshake_blind (fuel : Nat) {mid : MidHandshake (ClientHandshake Response)}
    (h : mid.machine.Blind) :
    ∃ e, mid.handshake fuel = .error e ∧
      ∀ mid', e = .interrupted mid' → mid'.machine.Blind := by
  induction fuel generalizing mid with
  | zero => exact ⟨_, rfl, fun _ h ↦ nomatch h⟩
  | succ fuel ih =>
      rw [MidHandshake.handshake]
      cases hr : (mid.machine.singleRound : Except Failure (RoundResult Response)) with
      | error e => exact ⟨_, rfl, fun _ h ↦ nomatch h⟩
      | ok r =>
          rcases h.singleRound hr with ⟨m', rfl | rfl, hm'⟩ | ⟨stream, rfl⟩
          · refine ⟨_, rfl, ?_⟩
            rintro mid' ⟨⟩
            exact hm'
          · exact ih hm'
          · exact ih (HandshakeMachine.blind_startRead stream)

/-- **The handshake of a client is never done.** -/
theorem start_never_done (fuel : Nat) (stream : Socket) (request : Bytes)
    (role : ClientHandshake Response) (arrivals : List (List Bytes))
    (result : WebSocket × Response) :
    (start stream request role).resumed fuel arrivals ≠ .ok result := by
  have h : (start stream request role).machine.Blind := HandshakeMachine.blind_writing _ _
  generalize start stream request role = mid at h
  induction arrivals generalizing mid with
  | nil => exact fun h ↦ nomatch h
  | cons chunks arrivals ih =>
      have harrive : (mid.arrive chunks).machine.Blind := h
      obtain ⟨e, he, hblind⟩ := handshake_blind fuel harrive
      rw [MidHandshake.resumed, he]
      cases e with
      | failure e => exact fun h ↦ nomatch h
      | interrupted mid' => exact ih mid' (hblind mid' rfl)

end ClientHandshake

/-- **The handshake of a server is never done.** -/
theorem ServerHandshake.start_never_done {Request Response ErrorResponse : Type} [TryParse Request]
    (fuel : Nat) (stream : Socket) (http : Http Request Response ErrorResponse)
    (callback : Request → Response → Except ErrorResponse Response)
    (config : Option WebSocketConfig) (arrivals : List (List Bytes)) (result : WebSocket) :
    (start stream http callback config).resumed fuel arrivals ≠ .ok result :=
  MidHandshake.startRead_never_done fuel _ stream arrivals result

end Ws

end MessageIo
