import MessageIo.Handshake.Agreement
import MessageIo.Handshake.Progress

/-!
# Writing in a handshake

A stream takes some bytes in pieces: what it does not take is offered again, in the same call of the
handshake or, if it would block, in the next one (`Taking`).  Nothing else happens in a stage of
writing: it ends where the stream blocks with no call left, where it fails or takes nothing, and
where it has taken all, and what comes behind the stage comes then (`resumedBy_writing`).

So a server has answered before its handshake ends, and it ends in a `WebSocket` only if the request
was accepted (`server_answers`).  A client writes its request and then starts to read
(`client_asks`).
-/

namespace MessageIo

namespace Ws

/-! ## What a stream takes -/

/-- The stream answers its writes so from here on. -/
def Socket.answering (writes : List WriteCall) (s : Socket) : Socket :=
  { s with answers := { s.answers with writes } }

/-- **What a stream has taken** of some bytes: where the stream is, what is left of the bytes, and
how the calls are answered that are still to come. -/
inductive Taking (stream : Socket) (data : Bytes) (calls : List (List WriteCall)) :
    Socket → Bytes → List (List WriteCall) → Prop
  | start : Taking stream data calls stream data calls
  /-- It takes a part, and the rest is offered. -/
  | part {s s' : Socket} {rest : Bytes} {left : List (List WriteCall)} {n : Nat}
      (h : Taking stream data calls s rest left) (hwrite : s.write rest = (.ok n, s'))
      (hn : n ≠ 0) (hrest : rest.drop n ≠ []) : Taking stream data calls s' (rest.drop n) left
  /-- It would block, and the same is offered in the next call. -/
  | again {s s' : Socket} {rest : Bytes} {writes : List WriteCall} {left : List (List WriteCall)}
      (h : Taking stream data calls s rest (writes :: left))
      (hwrite : s.write rest = (.error .wouldBlock, s')) :
      Taking stream data calls (s'.answering writes) rest left

section Socket

variable {s s' : Socket} {data : Bytes} {n : Nat} {kind : ErrorKind}

/-- A write that takes bytes uses up an answer. -/
theorem Socket.write_ok (h : s.write data = (.ok n, s')) :
    s'.written ++ data.drop n = s.written ++ data ∧
      s'.answers.writes.length < s.answers.writes.length := by
  rw [write] at h
  cases hwrites : s.answers.writes with
  | nil =>
      rw [hwrites] at h
      cases h
  | cons call writes =>
      rw [hwrites] at h
      cases call with
      | err kind => cases h
      | ok n =>
          cases h
          refine ⟨?_, Nat.lt_succ_self _⟩
          have hdrop : data.drop (min n data.length) = data.drop n := by
            rcases Nat.le_total n data.length with hn | hn
            · rw [Nat.min_eq_left hn]
            · rw [Nat.min_eq_right hn, List.drop_length, List.drop_eq_nil_of_le hn]
          rw [hdrop, List.append_assoc, List.take_append_drop]

/-- A write that fails takes nothing. -/
theorem Socket.write_error (h : s.write data = (.error kind, s')) : s'.written = s.written := by
  rw [write] at h
  cases hcall : s.answers.writes.head?.getD (.err .wouldBlock) with
  | err kind =>
      rw [hcall] at h
      cases h
      rfl
  | ok n =>
      rw [hcall] at h
      cases h

end Socket

/-- **Nothing is lost and nothing comes twice**: what has been taken and what is left is what there
was. -/
theorem Taking.kept {stream s : Socket} {data rest : Bytes} {calls left : List (List WriteCall)}
    (h : Taking stream data calls s rest left) :
    s.written ++ rest = stream.written ++ data ∧ (data ≠ [] → rest ≠ []) := by
  induction h with
  | start => exact ⟨rfl, id⟩
  | part h hwrite hn hrest ih =>
      exact ⟨(Socket.write_ok hwrite).1.trans ih.1, fun _ ↦ hrest⟩
  | again h hwrite ih =>
      refine ⟨?_, ih.2⟩
      rw [← ih.1, ← Socket.write_error hwrite]
      rfl

/-! ## A stage of writing -/

/-- What a round of writing does. -/
inductive WritingRound {Obj : Type} (s : Socket) (buf : Bytes) :
    Except Failure (RoundResult Obj) → Prop
  | part {s' : Socket} {n : Nat} (hwrite : s.write buf = (.ok n, s')) (hn : n ≠ 0)
      (hrest : buf.drop n ≠ []) : WritingRound s buf (.ok (.incomplete ⟨s', .writing (buf.drop n)⟩))
  | finished {s' : Socket} {n : Nat} (hwrite : s.write buf = (.ok n, s')) (hn : n ≠ 0)
      (hall : buf.drop n = []) : WritingRound s buf (.ok (.stageFinished (.doneWriting s')))
  | nothing {s' : Socket} (hwrite : s.write buf = (.ok 0, s')) :
      WritingRound s buf (.error .assertion)
  | wouldBlock {s' : Socket} (hwrite : s.write buf = (.error .wouldBlock, s')) :
      WritingRound s buf (.ok (.wouldBlock ⟨s', .writing buf⟩))
  | failed {s' : Socket} {kind : ErrorKind} (hwrite : s.write buf = (.error kind, s'))
      (hkind : kind ≠ .wouldBlock) : WritingRound s buf (.error (.connection (.io kind)))

/-- **A round of writing** is a write to the stream. -/
theorem HandshakeMachine.singleRound_writing {Obj : Type} [TryParse Obj] {s : Socket}
    {buf : Bytes} (hbuf : buf ≠ []) :
    WritingRound s buf
      (HandshakeMachine.singleRound ⟨s, .writing buf⟩ : Except Failure (RoundResult Obj)) := by
  simp only [singleRound, if_neg hbuf]
  cases hwrite : s.write buf with
  | mk r s' =>
      cases r with
      | error kind =>
          by_cases hkind : kind = .wouldBlock
          · subst hkind
            exact .wouldBlock hwrite
          · have hround : WritingRound s buf
                (.error (.connection (.io kind)) : Except Failure (RoundResult Obj)) :=
              .failed hwrite hkind
            cases kind <;> first | exact hround | exact absurd rfl hkind
      | ok n =>
          simp only
          split
          · rename_i hn
            subst hn
            exact .nothing hwrite
          · rename_i hn
            split
            · rename_i hrest
              exact .part hwrite hn hrest
            · rename_i hrest
              exact .finished hwrite hn (not_not.1 hrest)

/-- **How a stage of writing can end**: the stream blocks and only these calls are left, it fails or
takes nothing, or it has taken all and `next` tells what comes then. -/
inductive Writes {ρ Result : Type} (role : ρ) (stream : Socket) (data : Bytes)
    (calls left : List (List WriteCall)) (next : Socket → Except (HandshakeError ρ) Result → Prop) :
    Except (HandshakeError ρ) Result → Prop
  | blocked {s s' : Socket} {rest : Bytes} (h : Taking stream data calls s rest left)
      (hwrite : s.write rest = (.error .wouldBlock, s')) (hrest : rest ≠ [])
      (hkept : s'.written ++ rest = stream.written ++ data) :
      Writes role stream data calls left next (.error (.interrupted ⟨role, s', .writing rest⟩))
  | failed {s s' : Socket} {rest : Bytes} {later : List (List WriteCall)} {kind : ErrorKind}
      (h : Taking stream data calls s rest later) (hwrite : s.write rest = (.error kind, s'))
      (hkind : kind ≠ .wouldBlock) :
      Writes role stream data calls left next (.error (.failure (.connection (.io kind))))
  | nothing {s s' : Socket} {rest : Bytes} {later : List (List WriteCall)}
      (h : Taking stream data calls s rest later) (hwrite : s.write rest = (.ok 0, s')) :
      Writes role stream data calls left next (.error (.failure .assertion))
  | taken {s s' : Socket} {rest : Bytes} {later : List (List WriteCall)} {n : Nat}
      {r : Except (HandshakeError ρ) Result} (h : Taking stream data calls s rest later)
      (hwrite : s.write rest = (.ok n, s')) (hall : rest.drop n = [])
      (hkept : s'.written = stream.written ++ data) (hr : next s' r) :
      Writes role stream data calls left next r

theorem Writes.mono {ρ Result : Type} {role : ρ} {stream : Socket} {data : Bytes}
    {calls left : List (List WriteCall)}
    {next next' : Socket → Except (HandshakeError ρ) Result → Prop}
    {r : Except (HandshakeError ρ) Result} (h : Writes role stream data calls left next r)
    (hnext : ∀ s r, next s r → next' s r) : Writes role stream data calls left next' r := by
  cases h with
  | blocked h hwrite hrest hkept => exact .blocked h hwrite hrest hkept
  | failed h hwrite hkind => exact .failed h hwrite hkind
  | nothing h hwrite => exact .nothing h hwrite
  | taken h hwrite hall hkept hr => exact .taken h hwrite hall hkept (hnext _ _ hr)

namespace MidHandshake

variable {ρ Obj Result : Type} [TryParse Obj] [HandshakeRole ρ Obj Result]

/-- The stream of a handshake answers its writes so from here on. -/
def answered (writes : List WriteCall) (mid : MidHandshake ρ) : MidHandshake ρ :=
  { mid with machine := { mid.machine with stream := mid.machine.stream.answering writes } }

/-- The handshake is resumed with other answers each time, as long as it is interrupted. -/
def resumedBy (fuel : Nat) : List (List WriteCall) → MidHandshake ρ →
    Except (HandshakeError ρ) Result
  | [], mid => .error (.interrupted mid)
  | writes :: calls, mid =>
      match (mid.answered writes).handshake fuel with
      | .error (.interrupted mid) => resumedBy fuel calls mid
      | r => r

/-- What a stage leads to, with fuel for what comes behind it. -/
def behind (fuel : Nat) : Except Failure (ProcessingResult Result × ρ) →
    Except (HandshakeError ρ) Result
  | .error e => .error (.failure e)
  | .ok (.«continue» m, role) => handshake fuel ⟨role, m⟩
  | .ok (.done result, _) => .ok result

/-- The calls that are left, if a call has been interrupted. -/
def continued (fuel : Nat) (calls : List (List WriteCall)) :
    Except (HandshakeError ρ) Result → Except (HandshakeError ρ) Result
  | .error (.interrupted mid) => resumedBy fuel calls mid
  | r => r

theorem resumedBy_cons (fuel : Nat) (writes : List WriteCall) (calls : List (List WriteCall))
    (mid : MidHandshake ρ) :
    resumedBy fuel (writes :: calls) mid =
      continued fuel calls ((mid.answered writes).handshake fuel : Except _ Result) := by
  rw [resumedBy]
  cases ((mid.answered writes).handshake fuel : Except (HandshakeError ρ) Result) with
  | ok result => rfl
  | error e => cases e <;> rfl

variable {role : ρ} {stream s : Socket} {data rest : Bytes} {calls left : List (List WriteCall)}

/-- **One call**, by induction on its rounds: each of them uses up an answer of the stream. -/
theorem handshake_writing {fuel : Nat} (hdata : data ≠ [])
    (h : Taking stream data calls s rest left) (hfuel : s.answers.writes.length < fuel) :
    Writes role stream data calls left
      (fun s r ↦ ∃ fuel', r = behind (fuel' + 1) (HandshakeRole.stageFinished role
        (StageResult.doneWriting s)))
      (handshake fuel ⟨role, s, .writing rest⟩ : Except (HandshakeError ρ) Result) := by
  induction fuel generalizing s rest with
  | zero => exact absurd hfuel (Nat.not_lt_zero _)
  | succ fuel ih =>
      have hround : WritingRound s rest
          (HandshakeMachine.singleRound ⟨s, .writing rest⟩ : Except Failure (RoundResult Obj)) :=
        HandshakeMachine.singleRound_writing (h.kept.2 hdata)
      rw [handshake]
      generalize (HandshakeMachine.singleRound ⟨s, .writing rest⟩ :
        Except Failure (RoundResult Obj)) = out at hround
      cases hround with
      | part hwrite hn hrest =>
          have hless := (Socket.write_ok hwrite).2
          exact ih (h.part hwrite hn hrest) (by omega)
      | @finished s' n hwrite hn hall =>
          obtain ⟨hkept, hless⟩ := Socket.write_ok hwrite
          rw [hall, List.append_nil, h.kept.1] at hkept
          -- there was an answer, so there is fuel for one more round
          obtain ⟨fuel', rfl⟩ := Nat.exists_eq_add_of_le' (show 1 ≤ fuel by omega)
          exact .taken h hwrite hall hkept ⟨fuel', rfl⟩
      | nothing hwrite => exact .nothing h hwrite
      | wouldBlock hwrite =>
          refine .blocked h hwrite (h.kept.2 hdata) ?_
          rw [Socket.write_error hwrite]
          exact h.kept.1
      | failed hwrite hkind => exact .failed h hwrite hkind

/-- What comes behind the stage, with the calls that are left when all has been taken. -/
def Behind (fuel : Nat) (role : ρ) (s : Socket) (r : Except (HandshakeError ρ) Result) : Prop :=
  ∃ fuel' later, r = continued fuel later (behind (fuel' + 1)
    (HandshakeRole.stageFinished role (StageResult.doneWriting s)))

/-- A call in which the stage ends decides; one that blocks leaves the rest to the others. -/
theorem continued_of_call {fuel : Nat} {out : Except (HandshakeError ρ) Result}
    (hcall : Writes role stream data calls left (fun s r ↦ ∃ fuel', r = behind (fuel' + 1)
      (HandshakeRole.stageFinished role (StageResult.doneWriting s))) out)
    (hblocked : ∀ {s s' rest}, Taking stream data calls s rest left →
      s.write rest = (.error .wouldBlock, s') → rest ≠ [] →
      s'.written ++ rest = stream.written ++ data →
      Writes role stream data calls [] (Behind fuel role)
        (continued fuel left (.error (.interrupted ⟨role, s', .writing rest⟩)))) :
    Writes role stream data calls [] (Behind fuel role) (continued fuel left out) := by
  cases hcall with
  | blocked h hwrite hrest hkept => exact hblocked h hwrite hrest hkept
  | failed h hwrite hkind => exact .failed h hwrite hkind
  | nothing h hwrite => exact .nothing h hwrite
  | taken h hwrite hall hkept hr =>
      obtain ⟨fuel', rfl⟩ := hr
      exact .taken h hwrite hall hkept ⟨fuel', left, rfl⟩

/-- **All calls**, by induction on them: what comes behind the stage is decided when all has been
taken. -/
theorem continued_writing {fuel : Nat} (hdata : data ≠ [])
    (h : Taking stream data calls s rest left) (hfuel : s.answers.writes.length < fuel)
    (hfuels : ∀ writes ∈ left, writes.length < fuel) :
    Writes role stream data calls [] (Behind fuel role) (continued fuel left
      (handshake fuel ⟨role, s, .writing rest⟩ : Except (HandshakeError ρ) Result)) := by
  induction left generalizing s rest with
  | nil =>
      exact continued_of_call (handshake_writing hdata h hfuel)
        fun h hwrite hrest hkept ↦ .blocked h hwrite hrest hkept
  | cons writes left ih =>
      obtain ⟨hwrites, hfuels⟩ := List.forall_mem_cons.1 hfuels
      refine continued_of_call (handshake_writing hdata h hfuel) fun h hwrite hrest hkept ↦ ?_
      rw [continued, resumedBy_cons]
      exact ih (h.again hwrite) hwrites hfuels

/-- **A handshake that is about to write**: what the stream answers to the writes of its calls is
all that decides how the stage ends. -/
theorem resumedBy_writing {fuel : Nat} (hdata : data ≠ []) (stream : Socket)
    {writes : List WriteCall} (hfuels : ∀ ws ∈ writes :: calls, ws.length < fuel) :
    Writes role (stream.answering writes) data calls [] (Behind fuel role)
      (resumedBy fuel (writes :: calls) ⟨role, .startWrite stream data⟩ :
        Except (HandshakeError ρ) Result) := by
  obtain ⟨hwrites, hfuels⟩ := List.forall_mem_cons.1 hfuels
  rw [resumedBy_cons]
  exact continued_writing hdata .start hwrites hfuels

end MidHandshake

/-- How a server goes on that has read its request. -/
theorem ServerHandshake.stageFinished_reading {Request Response ErrorResponse : Type}
    {role role' : ServerHandshake Request Response ErrorResponse} {request : Request}
    {stream : Socket} {m : HandshakeMachine}
    (h : role.stageFinished (.doneReading request stream []) = .ok (.«continue» m, role')) :
    (∃ response response' output, role.http.createResponse request = .ok response ∧
      role.onRequest request response = .ok response' ∧
      role.http.writeResponse response' = .ok output ∧ m = .startWrite stream output ∧
      role' = { role with callback := none }) ∨
    ∃ response refusal output, role.http.createResponse request = .ok response ∧
      role.onRequest request response = .error refusal ∧ role.http.isSuccess refusal = false ∧
      role.http.writeErrorResponse refusal = .ok output ∧ m = .startWrite stream output ∧
      role' = { role with callback := none, errorResponse := some refusal } := by
  rw [stageFinished, if_neg (not_not.2 rfl)] at h
  cases hcreate : role.http.createResponse request with
  | error e =>
      rw [hcreate] at h
      cases h
  | ok response =>
      simp only [hcreate, bind, Except.bind, pure, Except.pure] at h
      cases hcallback : role.onRequest request response with
      | ok response' =>
          simp only [hcallback] at h
          cases hwrite : role.http.writeResponse response' with
          | error e =>
              rw [hwrite] at h
              cases h
          | ok output =>
              rw [hwrite] at h
              cases h
              exact .inl ⟨response, response', output, rfl, hcallback, hwrite, rfl, rfl⟩
      | error refusal =>
          simp only [hcallback] at h
          split at h
          · cases h
          · rename_i hstatus
            cases hwrite : role.http.writeErrorResponse refusal with
            | error e =>
                rw [hwrite] at h
                cases h
            | ok output =>
                rw [hwrite] at h
                cases h
                exact .inr ⟨response, refusal, output, rfl, hcallback, Bool.eq_false_iff.2 hstatus,
                  hwrite, rfl, rfl⟩

namespace Opening

open MidHandshake

variable {crates : Crates} {failure : Fault crates → Failure}
  {callback : Request crates → Response crates → Except (ErrorResponse crates) (Response crates)}
  {config : Option WebSocketConfig} {request : Request crates} {stream : Socket}

/-! ## The server -/

/-- The end of a handshake that was accepted. -/
def accepted (crates : Crates) (config : Option WebSocketConfig) (stream : Socket) :
    Except (HandshakeError (Server crates)) WebSocket :=
  (orPanic (WebSocket.fromRawSocket stream .server config)).mapError .failure

/-- **What a server has decided, and how it says so.** -/
inductive Decided
    (callback : Request crates → Response crates → Except (ErrorResponse crates) (Response crates))
    (config : Option WebSocketConfig) (request : Request crates) :
    Bytes → (Socket → Except (HandshakeError (Server crates)) WebSocket) → Prop
  | accepts {response response' : Response crates} {output : Bytes}
      (hcreate : createResponse request = .ok response)
      (hcallback : callback request response = .ok response')
      (hwrite : writeResponse response' = .ok output) :
      Decided callback config request output (accepted crates config)
  | refuses {response : Response crates} {refusal : ErrorResponse crates} {output : Bytes}
      (hcreate : createResponse request = .ok response)
      (hcallback : callback request response = .error refusal)
      (hstatus : crates.isSuccess refusal.status = false)
      (hwrite : writeErrorResponse refusal = .ok output) :
      Decided callback config request output fun _ ↦ .error (.failure .http)

theorem mapError_ok {ε ε' α : Type} {f : ε → ε'} {r : Except ε α} {a : α}
    (h : r.mapError f = .ok a) : r = .ok a := by
  cases r with
  | error e => cases h
  | ok a' =>
      cases h
      rfl

theorem writeResponse_ne_nil {T : Type} {response : HttpResponse crates T} {output : Bytes}
    (h : writeResponse response = .ok output) : output ≠ [] := by
  rw [writeResponse] at h
  cases hheaders : writeHeaders (crates.iter response.headers) with
  | error e =>
      rw [hheaders] at h
      cases h
  | ok headers =>
      rw [hheaders] at h
      cases h
      exact List.append_ne_nil_of_right_ne_nil _ (List.cons_ne_nil _ _)

theorem writeErrorResponse_ne_nil {refusal : ErrorResponse crates} {output : Bytes}
    (h : writeErrorResponse refusal = .ok output) : output ≠ [] := by
  rw [writeErrorResponse] at h
  cases hwrite : writeResponse refusal with
  | error e =>
      rw [hwrite] at h
      cases h
  | ok head =>
      rw [hwrite] at h
      cases h
      exact List.append_ne_nil_of_left_ne_nil (writeResponse_ne_nil hwrite) _

/-- A request that is written has a byte: it ends with an empty line. -/
theorem generateRequest_ne_nil {data key : Bytes} (h : generateRequest request = .ok (data, key)) :
    data ≠ [] := by
  rw [generateRequest] at h
  split at h
  · cases h
  · split at h
    · cases h
    · split at h
      · cases h
      · rename_i key' hkey'
        cases hnecessary : writeNecessary websocketHeaders request.headers with
        | error e =>
            rw [hnecessary] at h
            cases h
        | ok r =>
            cases hothers : writeOthers (crates.iter r.2) with
            | error e =>
                simp only [hnecessary, hothers, bind, Except.bind] at h
                cases h
            | ok others =>
                simp only [hnecessary, hothers, bind, Except.bind] at h
                cases h
                exact List.append_ne_nil_of_right_ne_nil _ (List.cons_ne_nil _ _)

section

variable [TryParse (Request crates)]

/-- A server that has read its request and goes on has decided. -/
theorem stageFinished_decided {m : HandshakeMachine} {role : Server crates}
    (h : (server failure callback config).stageFinished (.doneReading request stream []) =
      .ok (.«continue» m, role)) :
    ∃ output finish, Decided callback config request output finish ∧ output ≠ [] ∧
      m = .startWrite stream output ∧
        ∀ stream fuel, MidHandshake.behind fuel (role.stageFinished (.doneWriting stream)) =
          finish stream := by
  rcases ServerHandshake.stageFinished_reading h with
    ⟨response, response', output, hcreate, hcallback, hwrite, rfl, rfl⟩ |
    ⟨response, refusal, output, hcreate, hcallback, hstatus, hwrite, rfl, rfl⟩
  · have hwrite := mapError_ok hwrite
    refine ⟨output, _, .accepts (mapError_ok hcreate) hcallback hwrite, writeResponse_ne_nil hwrite,
      rfl, fun stream fuel ↦ ?_⟩
    rw [accepted]
    change MidHandshake.behind fuel (do
      let websocket ← orPanic (WebSocket.fromRawSocket stream .server config)
      return (.done websocket, _)) = _
    cases orPanic (WebSocket.fromRawSocket stream .server config) with
    | error e => rfl
    | ok w => rfl
  · have hwrite := mapError_ok hwrite
    exact ⟨output, _, .refuses (mapError_ok hcreate) hcallback hstatus hwrite,
      writeErrorResponse_ne_nil hwrite, rfl, fun stream fuel ↦ rfl⟩

/-- What a server has decided does not depend on how often it is called. -/
theorem continued_finish {output : Bytes}
    {finish : Socket → Except (HandshakeError (Server crates)) WebSocket}
    (h : Decided callback config request output finish) (fuel : Nat)
    (calls : List (List WriteCall)) (stream : Socket) :
    continued fuel calls (finish stream) = finish stream := by
  cases h with
  | accepts hcreate hcallback hwrite =>
      rw [accepted]
      cases orPanic (WebSocket.fromRawSocket stream .server config) with
      | error e => rfl
      | ok w => rfl
  | refuses hcreate hcallback hstatus hwrite => rfl

/-- **A server answers before its handshake ends.**  It writes what it has decided, once and in
whatever pieces the stream takes it; only then its handshake ends, and it ends in a connection only
if the request was accepted. -/
theorem server_answers {m : HandshakeMachine} {role : Server crates}
    (h : (server failure callback config).stageFinished (.doneReading request stream []) =
      .ok (.«continue» m, role)) {fuel : Nat} {writes : List WriteCall}
    {calls : List (List WriteCall)} (hfuel : ∀ ws ∈ writes :: calls, ws.length < fuel) :
    ∃ output finish, Decided callback config request output finish ∧
      Writes role (stream.answering writes) output calls [] (fun stream r ↦ r = finish stream)
        (resumedBy fuel (writes :: calls) ⟨role, m⟩) := by
  obtain ⟨output, finish, hdecided, hne, rfl, hfinish⟩ := stageFinished_decided h
  refine ⟨output, finish, hdecided, (resumedBy_writing hne stream hfuel).mono ?_⟩
  rintro stream r ⟨fuel', later, rfl⟩
  exact (congrArg _ (hfinish stream (fuel' + 1))).trans
    (continued_finish hdecided fuel later stream)

end

/-- A refusal takes two calls: the first one takes twenty bytes and then blocks, the second one
takes the rest. -/
theorem server_answers_refusal :
    letI : TryParse (Request plainCrates) := requestParse fun _ ↦ .httpFormat
    ∃ m, ∃ role : Server plainCrates, ∃ output finish,
      (server (fun _ ↦ .httpFormat) needsOrigin none).stageFinished
          (.doneReading withoutOrigin (.new ⟨[], [], [], []⟩) []) = .ok (.«continue» m, role) ∧
        Decided needsOrigin none withoutOrigin output finish ∧
        resumedBy 3 [[.ok 20], [.ok 100]] ⟨role, m⟩ = .error (.failure .http) ∧
        Writes role (.new ⟨[], [.ok 20], [], []⟩) output [[.ok 100]] []
          (fun stream r ↦ r = finish stream) (resumedBy 3 [[.ok 20], [.ok 100]] ⟨role, m⟩) := by
  let _ : TryParse (Request plainCrates) := requestParse fun _ ↦ .httpFormat
  obtain ⟨m, role, h, hrefused⟩ : ∃ m, ∃ role : Server plainCrates,
      (server (fun _ ↦ .httpFormat) needsOrigin none).stageFinished
        (.doneReading withoutOrigin (.new ⟨[], [], [], []⟩) []) = .ok (.«continue» m, role) ∧
      resumedBy 3 [[.ok 20], [.ok 100]] ⟨role, m⟩ = .error (.failure .http) :=
    ⟨_, _, rfl, rfl⟩
  have hfuel : ∀ ws ∈ ([[.ok 20], [.ok 100]] : List (List WriteCall)), ws.length < 3 := by
    simp
  obtain ⟨output, finish, hdecided, hwrites⟩ := server_answers h hfuel
  exact ⟨m, role, output, finish, h, hdecided, hrefused, hwrites⟩

/-! ## The client -/

section

variable [TryParse (ClientResponse crates)]

/-- A client that is about to read is interrupted each time it is called. -/
theorem continued_startRead (fuel fuel' : Nat) (calls : List (List WriteCall))
    (role : ClientHandshake (ClientResponse crates)) (stream : Socket) :
    ∃ stream' : Socket, stream'.written = stream.written ∧
      continued (fuel + 1) calls (handshake (fuel' + 1) ⟨role, .startRead stream⟩) =
        .error (.interrupted ⟨role, .startRead stream'⟩) := by
  induction calls generalizing stream fuel' with
  | nil => exact ⟨stream, rfl, rfl⟩
  | cons writes calls ih =>
      obtain ⟨stream', hwritten, hcalls⟩ := ih fuel (stream.answering writes)
      refine ⟨stream', hwritten, ?_⟩
      rw [HandshakeMachine.startRead, handshake_reading_nil, continued, resumedBy_cons]
      exact hcalls

/-- **A client asks**: it writes its request, once and in whatever pieces the stream takes it, and
then waits for the response. -/
theorem client_asks {mid : MidHandshake (ClientHandshake (ClientResponse crates))}
    (h : startClient failure stream request config = .ok mid) {fuel : Nat} {writes : List WriteCall}
    {calls : List (List WriteCall)} (hfuel : ∀ ws ∈ writes :: calls, ws.length < fuel) :
    ∃ data verify, startData request = .ok (data, verify) ∧
      Writes mid.role (stream.answering writes) data calls []
        (fun stream r ↦ ∃ stream' : Socket, stream'.written = stream.written ∧
          r = .error (.interrupted ⟨mid.role, .startRead stream'⟩))
        (resumedBy fuel (writes :: calls) mid) := by
  rw [startClient] at h
  cases hstart : startData request with
  | error e =>
      rw [hstart] at h
      cases h
  | ok r =>
      obtain ⟨data, verify⟩ := r
      rw [hstart] at h
      cases h
      obtain ⟨key, hgenerate, -⟩ := startData_eq hstart
      refine ⟨data, verify, rfl,
        (resumedBy_writing (generateRequest_ne_nil hgenerate) stream hfuel).mono ?_⟩
      rintro stream' r ⟨fuel', later, rfl⟩
      obtain ⟨fuel, rfl⟩ := Nat.exists_eq_add_of_le' (show 1 ≤ fuel from
        Nat.zero_lt_of_lt (hfuel writes List.mem_cons_self))
      exact continued_startRead fuel fuel' later _ stream'

end

/-- The request takes three calls. -/
theorem client_asks_sample :
    letI : TryParse (ClientResponse plainCrates) := responseParse fun _ ↦ .httpFormat
    ∃ mid data verify,
      startClient (fun _ ↦ .httpFormat) (.new ⟨[], [], [], []⟩) plainRequest none = .ok mid ∧
      startData plainRequest = .ok (data, verify) ∧
      Writes mid.role (.new ⟨[], [.ok 10], [], []⟩) data [[.ok 50, .ok 1], [.ok 500]] []
        (fun stream r ↦ ∃ stream' : Socket, stream'.written = stream.written ∧
          r = .error (.interrupted ⟨mid.role, .startRead stream'⟩))
        (resumedBy 3 [[.ok 10], [.ok 50, .ok 1], [.ok 500]] mid) := by
  let _ : TryParse (ClientResponse plainCrates) := responseParse fun _ ↦ .httpFormat
  obtain ⟨mid, h⟩ : ∃ mid, startClient (fun _ ↦ .httpFormat) (.new ⟨[], [], [], []⟩) plainRequest
      none = .ok mid := ⟨_, rfl⟩
  have hfuel : ∀ ws ∈ ([[.ok 10], [.ok 50, .ok 1], [.ok 500]] : List (List WriteCall)),
      ws.length < 3 := by
    simp
  obtain ⟨data, verify, hstart, hwrites⟩ := client_asks h hfuel
  exact ⟨mid, data, verify, h, hstart, hwrites⟩

end Opening

end Ws

end MessageIo
