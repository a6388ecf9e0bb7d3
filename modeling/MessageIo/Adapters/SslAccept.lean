import MessageIo.Adapters.SslReady

/-!
# Reading a TLS stream (`ssl_acceptor.rs`, `RemoteResource::receive`)

Here the answers that `receive` gets are no longer any answers.  They are what `wrap_stream` and
`rustls` make of the reads of a socket, which brings some bytes and then nothing more.

`wrap_stream` reads once, and an acceptor that has not seen the whole client hello is an error like
any other: only one that would block is tried again.  So a hello that comes in two pieces is the
end of the stream (`accept_cut_iff`), and an acceptor whose socket has nothing is tried again
without end, where a connection waits for the next event (`receive_returns_iff`).
-/

namespace MessageIo

namespace Ssl

/-! ## What `rustls` does -/

/-- The parts of `rustls` that read: an acceptor is the bytes that it has taken. -/
structure Rustls (Accepted Conn : Type) where
  /-- `Acceptor::accept` -/
  accept : Bytes → Except Unit (Option Accepted)
  /-- `Accepted::into_connection` -/
  intoConnection : Accepted → ServerConfig → Except Unit Conn
  /-- `StreamOwned::read`: its answer, the connection after it, and what it leaves of the answers
  of the socket. -/
  read : Conn → List ReadCall → ReadCall × Conn × List ReadCall

/-- A read of a socket that has nothing when its answers are used up. -/
def readSocket : List ReadCall → ReadCall × List ReadCall
  | [] => (.err .wouldBlock, [])
  | call :: calls => (call, calls)

/-- What there is of a TLS stream outside of the resource. -/
inductive Tls (Conn : Type) where
  | accepting (taken : Bytes)
  | connected (conn : Conn)

variable {Accepted Conn : Type}

namespace Rustls

variable (R : Rustls Accepted Conn) (config : ServerConfig)

/-- `wrap_stream` of the acceptor, after the read of its socket. -/
def wrapStream (taken : Bytes) : ReadCall → Except ErrorKind Conn × Bytes
  | .ok data =>
      match R.accept (taken ++ data) with
      | .ok (some accepted) =>
          match R.intoConnection accepted config with
          | .ok conn => (.ok conn, taken ++ data)
          | .error _ => (.error .other, taken ++ data)
      -- "ClientHelloNotCompletedYet"
      | .ok none => (.error .other, taken ++ data)
      | .error _ => (.error .other, taken ++ data)
  | .err kind => (.error kind, taken)

/-- What is answered in one turn of `receive`. -/
def turn : Tls Conn → List ReadCall → ReadEnv × Tls Conn × List ReadCall
  | .accepting taken, input =>
      match R.wrapStream config taken (readSocket input).1 with
      | (.ok conn, _) => (⟨.err .wouldBlock, .ok (), .other, .ok ()⟩, .connected conn,
          (readSocket input).2)
      | (.error kind, taken) => (⟨.err .wouldBlock, .error kind, .other, .ok ()⟩, .accepting taken,
          (readSocket input).2)
  | .connected conn, input =>
      (.ofRead (R.read conn input).1, .connected (R.read conn input).2.1, (R.read conn input).2.2)

/-- What is answered in the first turns of `receive`. -/
def answers : Nat → Tls Conn → List ReadCall → List ReadEnv
  | 0, _, _ => []
  | n + 1, tls, input =>
      (R.turn config tls input).1 ::
        answers n (R.turn config tls input).2.1 (R.turn config tls input).2.2

end Rustls

/-! ## One turn -/

section

variable {R : Rustls Accepted Conn} {raw : TcpStream} {config : ServerConfig}
  {keepaliveOpt : Option TcpKeepalive} {taken : Bytes} {input : List ReadCall} {n : Nat}

/-- An accepted remote that is not a connection yet. -/
def accepting (raw : TcpStream) (config : ServerConfig) (keepaliveOpt : Option TcpKeepalive) :
    RemoteResource :=
  ⟨.rustlsStreamAcceptor (some raw) (some ()) config, keepaliveOpt⟩

/-- The answers of a turn in which the acceptor says this. -/
theorem answers_accepting {out : Except ErrorKind Conn} {taken' : Bytes}
    (h : R.wrapStream config taken (readSocket input).1 = (out, taken')) :
    R.answers config (n + 1) (.accepting taken) input =
      ⟨.err .wouldBlock, out.map fun _ ↦ (), .other, .ok ()⟩ :: R.answers config n
        (match out with
          | .ok conn => .connected conn
          | .error _ => .accepting taken') (readSocket input).2 := by
  have hturn : R.turn config (.accepting taken) input =
      (⟨.err .wouldBlock, out.map fun _ ↦ (), .other, .ok ()⟩,
        match out with
          | .ok conn => .connected conn
          | .error _ => .accepting taken', (readSocket input).2) := by
    cases out <;> simp only [Rustls.turn, h] <;> rfl
  rw [Rustls.answers, hturn]

/-- The client hello is there: the turn makes a connection of it. -/
theorem result_wrapped {conn : Conn} {taken' : Bytes}
    (h : R.wrapStream config taken (readSocket input).1 = (.ok conn, taken')) :
    (Remote.receive (accepting raw config keepaliveOpt)
        (R.answers config (n + 1) (.accepting taken) input)).result =
      (Remote.receive (⟨.rustlsServerConnection raw, keepaliveOpt⟩ : RemoteResource)
        (R.answers config n (.connected conn) (readSocket input).2)).result := by
  rw [answers_accepting h]
  have hturn : Remote.receiveTurn (accepting raw config keepaliveOpt)
      ⟨.err .wouldBlock, .ok (), .other, .ok ()⟩ =
        .ok (.again, ⟨.rustlsServerConnection raw, keepaliveOpt⟩) := rfl
  exact Remote.result_receive hturn

/-- An acceptor that would block is tried again. -/
theorem result_again {taken' : Bytes}
    (h : R.wrapStream config taken (readSocket input).1 = (.error .wouldBlock, taken')) :
    (Remote.receive (accepting raw config keepaliveOpt)
        (R.answers config (n + 1) (.accepting taken) input)).result =
      (Remote.receive (accepting raw config keepaliveOpt)
        (R.answers config n (.accepting taken') (readSocket input).2)).result := by
  rw [answers_accepting h]
  have hturn : Remote.receiveTurn (accepting raw config keepaliveOpt)
      ⟨.err .wouldBlock, .error .wouldBlock, .other, .ok ()⟩ =
        .ok (.again, accepting raw config keepaliveOpt) := rfl
  exact Remote.result_receive hturn

/-- Any other error is the end. -/
theorem result_failed {kind : ErrorKind} {taken' : Bytes} (hkind : kind ≠ .wouldBlock)
    (h : R.wrapStream config taken (readSocket input).1 = (.error kind, taken')) :
    (Remote.receive (accepting raw config keepaliveOpt)
        (R.answers config (n + 1) (.accepting taken) input)).result =
      .ok (.disconnected, accepting raw config keepaliveOpt) := by
  rw [answers_accepting h]
  have hturn : Remote.receiveTurn (accepting raw config keepaliveOpt)
      ⟨.err .wouldBlock, .error kind, .other, .ok ()⟩ =
        .ok (.done .disconnected, accepting raw config keepaliveOpt) := by
    change (if kind = .wouldBlock then _ else _ : Except Halt (ReceiveTurn × RemoteResource)) = _
    rw [if_neg hkind]
    rfl
  exact Remote.result_receive hturn

/-- A connection is read. -/
theorem result_connected {r : RemoteResource} {conn : Conn} (hr : r.stream.isAcceptor = false) :
    (Remote.receive r (R.answers config (n + 1) (.connected conn) input)).result =
      match (readTurn (R.read conn input).1).status with
      | none => (Remote.receive r (R.answers config n (.connected (R.read conn input).2.1)
          (R.read conn input).2.2)).result
      | some status => .ok (status, r) := by
  have hturn : r.receiveTurn (.ofRead (R.read conn input).1) =
      .ok (readTurn (R.read conn input).1, r) := by
    obtain ⟨stream, keepaliveOpt⟩ := r
    cases stream with
    | rustlsStreamAcceptor raw acceptor config => cases hr
    | rustlsClientConnection sock => rfl
    | rustlsServerConnection sock => rfl
  exact Remote.result_receive hturn

end

/-! ## Any number of turns -/

/-- A `receive` that has returned does not look at further answers. -/
theorem result_receive_append {r : RemoteResource} {envs : List ReadEnv}
    {out : ReadStatus × RemoteResource} (h : (Remote.receive r envs).result = .ok out)
    (more : List ReadEnv) : (Remote.receive r (envs ++ more)).result = .ok out := by
  induction envs generalizing r with
  | nil => cases h
  | cons env envs ih =>
      obtain ⟨⟨turn, r'⟩, hturn, -⟩ := Proc.result_bind_eq_ok h
      rw [List.cons_append]
      rw [Remote.result_receive hturn] at h ⊢
      cases hstatus : turn.status with
      | none =>
          simp only [hstatus] at h
          exact ih h
      | some status =>
          simp only [hstatus] at h
          exact h

section

variable {R : Rustls Accepted Conn} {config : ServerConfig}

/-- The answers of the first turns come first. -/
theorem answers_prefix (R : Rustls Accepted Conn) (config : ServerConfig) (n k : Nat)
    (tls : Tls Conn) (input : List ReadCall) :
    ∃ more, R.answers config (n + k) tls input = R.answers config n tls input ++ more := by
  induction n generalizing tls input with
  | zero => exact ⟨_, rfl⟩
  | succ n ih =>
      obtain ⟨more, hmore⟩ := ih (R.turn config tls input).2.1 (R.turn config tls input).2.2
      refine ⟨more, ?_⟩
      rw [Nat.add_right_comm, Rustls.answers, hmore]
      rfl

/-- What `receive` returns, if it does: the number of turns that are looked at does not matter. -/
theorem receive_unique {r : RemoteResource} {tls : Tls Conn} {input : List ReadCall} {n m : Nat}
    {out out' : ReadStatus × RemoteResource}
    (h : (Remote.receive r (R.answers config n tls input)).result = .ok out)
    (h' : (Remote.receive r (R.answers config m tls input)).result = .ok out') : out = out' := by
  have hle : ∀ {n m : Nat} {out out' : ReadStatus × RemoteResource}, n ≤ m →
      (Remote.receive r (R.answers config n tls input)).result = .ok out →
      (Remote.receive r (R.answers config m tls input)).result = .ok out' → out = out' := by
    intro n m out out' hnm h h'
    obtain ⟨k, rfl⟩ := Nat.exists_eq_add_of_le hnm
    obtain ⟨more, hmore⟩ := answers_prefix R config n k tls input
    rw [hmore, result_receive_append h more] at h'
    exact Except.ok.inj h'
  rcases Nat.le_total n m with hnm | hmn
  · exact hle hnm h h'
  · exact (hle hmn h' h).symm

end

/-! ## A client hello in pieces -/

/-- The bytes that the reads of a socket bring. -/
def chunks (input : List ReadCall) : List Bytes :=
  input.filterMap fun
    | .ok data => some data
    | .err _ => none

/-- A client hello that the acceptor accepts, and makes a connection of. -/
structure Rustls.Accepts (R : Rustls Accepted Conn) (config : ServerConfig) (hello : Bytes)
    (conn : Conn) : Prop where
  nonempty : hello ≠ []
  /-- `Ok(None)` as long as the hello is not complete. -/
  incomplete : ∀ part, part <+: hello → part ≠ hello → R.accept part = .ok none
  complete : ∃ accepted, R.accept hello = .ok (some accepted) ∧
    R.intoConnection accepted config = .ok conn
  /-- The connection has nothing to read when its socket has not. -/
  idle : ∀ input, (∀ call ∈ input, call = .err .wouldBlock) →
    (R.read conn input).1 = .err .wouldBlock

/-- A client hello that comes in one or more reads, and not at once. -/
structure Cut (hello : Bytes) (input : List ReadCall) : Prop where
  whole : (chunks input).flatten = hello
  nonempty : ∀ chunk ∈ chunks input, chunk ≠ []
  waits : ∀ kind, .err kind ∈ input → kind = .wouldBlock

/-- The remote becomes a connection, and is not reported to be disconnected. -/
structure BecomesConnection (R : Rustls Accepted Conn) (config : ServerConfig) (raw : TcpStream)
    (keepaliveOpt : Option TcpKeepalive) (input : List ReadCall) : Prop where
  connection : ∃ n r, (Remote.receive (accepting raw config keepaliveOpt)
    (R.answers config n (.accepting []) input)).result = .ok (.waitNextEvent, r) ∧
      r.stream = .rustlsServerConnection raw
  alive : ∀ n r, (Remote.receive (accepting raw config keepaliveOpt)
    (R.answers config n (.accepting []) input)).result ≠ .ok (.disconnected, r)

section

variable {R : Rustls Accepted Conn} {config : ServerConfig} {raw : TcpStream}
  {keepaliveOpt : Option TcpKeepalive} {hello : Bytes} {conn : Conn} {input : List ReadCall}

theorem Cut.tail (h : Cut hello (.err .wouldBlock :: input)) : Cut hello input :=
  ⟨h.whole, h.nonempty, fun kind hkind ↦ h.waits kind (List.mem_cons_of_mem _ hkind)⟩

/-- Where no bytes come, the reads only wait. -/
theorem wouldBlock_of_chunks (hwaits : ∀ kind, .err kind ∈ input → kind = .wouldBlock)
    (hnil : chunks input = []) : ∀ call ∈ input, call = .err .wouldBlock := by
  intro call hcall
  cases call with
  | err kind => rw [hwaits kind hcall]
  | ok data =>
      have hmem : data ∈ chunks input := List.mem_filterMap.2 ⟨.ok data, hcall, rfl⟩
      rw [hnil] at hmem
      cases hmem

/-- A hello that comes in one read makes a connection. -/
theorem result_of_one (raw : TcpStream) (keepaliveOpt : Option TcpKeepalive)
    (hR : R.Accepts config hello conn) (hcut : Cut hello input)
    (hone : chunks input = [hello]) :
    ∃ n, (Remote.receive (accepting raw config keepaliveOpt)
      (R.answers config n (.accepting []) input)).result =
        .ok (.waitNextEvent, ⟨.rustlsServerConnection raw, keepaliveOpt⟩) := by
  induction input with
  | nil => cases hone
  | cons call input ih =>
      cases call with
      | err kind =>
          obtain rfl := hcut.waits kind List.mem_cons_self
          obtain ⟨n, hn⟩ := ih hcut.tail hone
          exact ⟨n + 1, (result_again rfl).trans hn⟩
      | ok data =>
          obtain ⟨rfl, hnil⟩ : data = hello ∧ chunks input = [] := List.cons.inj hone
          obtain ⟨accepted, haccept, hconn⟩ := hR.complete
          have hwrap : R.wrapStream config [] (readSocket (.ok data :: input)).1 =
              (.ok conn, data) := by
            simp only [readSocket, Rustls.wrapStream, List.nil_append, haccept, hconn]
          have hidle : (R.read conn input).1 = .err .wouldBlock :=
            hR.idle input (wouldBlock_of_chunks
              (fun kind hkind ↦ hcut.waits kind (List.mem_cons_of_mem _ hkind)) hnil)
          refine ⟨2, (result_wrapped hwrap).trans ?_⟩
          change (Remote.receive (⟨.rustlsServerConnection raw, keepaliveOpt⟩ : RemoteResource)
            (R.answers config (0 + 1) (.connected conn) input)).result = _
          rw [result_connected rfl, hidle]
          rfl

/-- A hello that does not is the end of the remote. -/
theorem result_of_many (raw : TcpStream) (keepaliveOpt : Option TcpKeepalive)
    (hR : R.Accepts config hello conn) (hcut : Cut hello input)
    (hmany : chunks input ≠ [hello]) :
    ∃ n, (Remote.receive (accepting raw config keepaliveOpt)
      (R.answers config n (.accepting []) input)).result =
        .ok (.disconnected, accepting raw config keepaliveOpt) := by
  induction input with
  | nil => exact absurd hcut.whole.symm hR.nonempty
  | cons call input ih =>
      cases call with
      | err kind =>
          obtain rfl := hcut.waits kind List.mem_cons_self
          obtain ⟨n, hn⟩ := ih hcut.tail hmany
          exact ⟨n + 1, (result_again rfl).trans hn⟩
      | ok data =>
          have hwhole : data ++ (chunks input).flatten = hello := hcut.whole
          have hpart : data ≠ hello := by
            rintro rfl
            -- what comes after the whole hello is nothing
            have hnil : (chunks input).flatten = [] :=
              List.append_cancel_left (hwhole.trans (List.append_nil _).symm)
            have hnone : chunks input = [] := List.eq_nil_iff_forall_not_mem.2 fun chunk hchunk ↦
              hcut.nonempty chunk (List.mem_cons_of_mem _ hchunk)
                (List.flatten_eq_nil_iff.1 hnil chunk hchunk)
            exact hmany (congrArg (data :: ·) hnone)
          have haccept := hR.incomplete data ⟨_, hwhole⟩ hpart
          have hwrap : R.wrapStream config [] (readSocket (.ok data :: input)).1 =
              (.error .other, data) := by
            simp only [readSocket, Rustls.wrapStream, List.nil_append, haccept]
          have hkind : ErrorKind.other ≠ .wouldBlock := nofun
          exact ⟨1, result_failed hkind hwrap⟩

/-- **When an accepted remote becomes a connection**: exactly if its client hello comes in one
read.  In every other case it is reported to be disconnected. -/
theorem accept_cut_iff (hR : R.Accepts config hello conn) (hcut : Cut hello input) :
    BecomesConnection R config raw keepaliveOpt input ↔ chunks input = [hello] := by
  constructor
  · intro h
    by_contra hmany
    obtain ⟨n, hn⟩ := result_of_many raw keepaliveOpt hR hcut hmany
    exact h.alive n _ hn
  · intro hone
    obtain ⟨n, hn⟩ := result_of_one raw keepaliveOpt hR hcut hone
    refine ⟨⟨n, _, hn, rfl⟩, fun m r hm ↦ ?_⟩
    cases receive_unique hn hm

end

/-! ### A client hello of TLS 1.2 -/

/-- An acceptor that knows one client hello.  Its connections have nothing to read. -/
def acceptorOf (hello : Bytes) : Rustls Unit Unit where
  accept taken :=
    if taken = hello then .ok (some ())
    else if taken.isPrefixOf hello then .ok none
    else .error ()
  intoConnection _ _ := .ok ()
  read _ input := (.err .wouldBlock, (), input)

theorem acceptorOf_accepts (config : ServerConfig) {hello : Bytes} (hhello : hello ≠ []) :
    (acceptorOf hello).Accepts config hello () where
  nonempty := hhello
  incomplete part hprefix hpart := by
    simp only [acceptorOf, if_neg hpart, List.isPrefixOf_iff_prefix.2 hprefix, if_true]
  complete := by
    refine ⟨(), ?_, rfl⟩
    simp only [acceptorOf, if_true]
  idle _ _ := rfl

/-- The header of the record. -/
def recordHeader : Bytes := [0x16, 0x03, 0x01, 0x00, 0x4b]

/-- One cipher suite, and the extensions for its groups, points and signatures. -/
def helloMessage : Bytes :=
  [0x01, 0x00, 0x00, 0x47, 0x03, 0x03] ++ List.replicate 32 0x5a ++
    [0x00, 0x00, 0x02, 0xc0, 0x2f, 0x01, 0x00, 0x00, 0x1c] ++
      [0x00, 0x0a, 0x00, 0x04, 0x00, 0x02, 0x00, 0x1d] ++ [0x00, 0x0b, 0x00, 0x02, 0x01, 0x00] ++
        [0x00, 0x0d, 0x00, 0x06, 0x00, 0x04, 0x08, 0x04, 0x04, 0x01] ++ [0x00, 0x17, 0x00, 0x00]

def clientHello : Bytes := recordHeader ++ helloMessage

example : clientHello.length = 5 + 0x4b := rfl

/-- The hello comes in one read, after one that would block. -/
theorem accept_cut_whole :
    BecomesConnection (acceptorOf clientHello) ⟨0⟩ ⟨0⟩ none
      [.err .wouldBlock, .ok clientHello] := by
  have hhello : clientHello ≠ [] := nofun
  refine (accept_cut_iff (acceptorOf_accepts _ hhello) ⟨?_, ?_, ?_⟩).2 rfl
  · exact List.append_nil _
  · rintro chunk hchunk rfl
    cases List.mem_singleton.1 hchunk
  · intro kind hkind
    rcases List.mem_cons.1 hkind with h | h
    · cases h
      rfl
    · cases List.mem_singleton.1 h

/-- **The header of the record comes before the rest**: the remote is disconnected. -/
theorem disconnected_of_header :
    (acceptorOf clientHello).Accepts ⟨0⟩ clientHello () ∧
      Cut clientHello [.ok recordHeader, .ok helloMessage] ∧
        ¬ BecomesConnection (acceptorOf clientHello) ⟨0⟩ ⟨0⟩ none
          [.ok recordHeader, .ok helloMessage] ∧
        (Remote.receive (accepting ⟨0⟩ ⟨0⟩ none) ((acceptorOf clientHello).answers ⟨0⟩ 1
          (.accepting []) [.ok recordHeader, .ok helloMessage])).result =
            .ok (.disconnected, accepting ⟨0⟩ ⟨0⟩ none) := by
  have hresult : (Remote.receive (accepting ⟨0⟩ ⟨0⟩ none) ((acceptorOf clientHello).answers ⟨0⟩ 1
      (.accepting []) [.ok recordHeader, .ok helloMessage])).result =
        .ok (.disconnected, accepting ⟨0⟩ ⟨0⟩ none) := rfl
  have hhello : clientHello ≠ [] := nofun
  refine ⟨acceptorOf_accepts _ hhello, ⟨?_, ?_, ?_⟩, fun h ↦ h.alive _ _ hresult, hresult⟩
  · exact congrArg _ (List.append_nil _)
  · rintro chunk hchunk rfl
    rcases List.mem_cons.1 hchunk with h | h
    · cases h
    · cases List.mem_singleton.1 h
  · intro kind hkind
    rcases List.mem_cons.1 hkind with h | h
    · cases h
    · cases List.mem_singleton.1 h

/-! ## A socket that has no more to read -/

/-- How many bytes the reads of a socket bring. -/
def total (input : List ReadCall) : Nat := ((chunks input).map List.length).sum

/-- A read that brings bytes, or the end of the stream. -/
def IsOk (call : ReadCall) : Prop := ∃ data, call = .ok data

/-- What is promised of the connections of `rustls`: all that is read of one it has held, or taken
from its socket; and what it answers of its own accord is not that it was interrupted. -/
structure Rustls.Conserves (R : Rustls Accepted Conn) (held : Conn → Nat) : Prop where
  bytes : ∀ conn input data, (R.read conn input).1 = .ok data →
    data.length + (held (R.read conn input).2.1 + total (R.read conn input).2.2) ≤
      held conn + total input
  uninterrupted : ∀ conn input, (∀ call ∈ input, IsOk call) →
    (R.read conn input).1 ≠ .err .interrupted ∧ ∀ call ∈ (R.read conn input).2.2, IsOk call

/-- The stream and what there is of it outside of the resource. -/
inductive Fits (config : ServerConfig) : SslStream → Tls Conn → Prop
  | accepting (raw : TcpStream) (taken : Bytes) :
      Fits config (.rustlsStreamAcceptor (some raw) (some ()) config) (.accepting taken)
  | client (sock : TcpStream) (conn : Conn) :
      Fits config (.rustlsClientConnection sock) (.connected conn)
  | server (sock : TcpStream) (conn : Conn) :
      Fits config (.rustlsServerConnection sock) (.connected conn)

/-- An error, or the end of the stream. -/
def Fails (env : ReadEnv) : Prop :=
  (∃ kind, env.wrapStream = .error kind ∧ kind ≠ .wouldBlock) ∨
    (readTurn env.read).status = some .disconnected

/-- The loop of `receive` comes to an end: it waits for the next event, or the stream is
disconnected after an error. -/
def Returns (R : Rustls Accepted Conn) (config : ServerConfig) (r : RemoteResource)
    (tls : Tls Conn) (input : List ReadCall) : Prop :=
  ∃ n status r', (Remote.receive r (R.answers config n tls input)).result = .ok (status, r') ∧
    (status = .disconnected → ∃ env ∈ R.answers config n tls input, Fails env)

section

variable {R : Rustls Accepted Conn} {held : Conn → Nat} {config : ServerConfig} {raw : TcpStream}
  {keepaliveOpt : Option TcpKeepalive} {r : RemoteResource} {tls : Tls Conn}
  {input : List ReadCall}

/-- One turn more in front. -/
theorem Returns.of_turn {r' : RemoteResource}
    (h : Returns R config r' (R.turn config tls input).2.1 (R.turn config tls input).2.2)
    (hturn : ∀ n, (Remote.receive r (R.answers config (n + 1) tls input)).result =
      (Remote.receive r' (R.answers config n (R.turn config tls input).2.1
        (R.turn config tls input).2.2)).result) : Returns R config r tls input := by
  obtain ⟨n, status, r'', hresult, hfails⟩ := h
  refine ⟨n + 1, status, r'', (hturn n).trans hresult, fun hstatus ↦ ?_⟩
  obtain ⟨env, henv, hfail⟩ := hfails hstatus
  exact ⟨env, List.mem_cons_of_mem _ henv, hfail⟩

/-- **A connection is read until its socket has nothing more**: every turn that goes on hands out
bytes, of which there are finitely many. -/
theorem returns_connected (hR : R.Conserves held) (hr : r.stream.isAcceptor = false) (conn : Conn)
    (hinput : ∀ call ∈ input, IsOk call) : Returns R config r (.connected conn) input := by
  induction hsize : held conn + total input using Nat.strongRecOn generalizing conn input with
  | _ size ih =>
      obtain ⟨huninterrupted, hrest⟩ := hR.uninterrupted conn input hinput
      have hlast : ∀ status, (readTurn (R.read conn input).1).status = some status →
          Returns R config r (.connected conn) input := by
        intro status hstatus
        refine ⟨0 + 1, status, r, ?_, ?_⟩
        · rw [result_connected hr, hstatus]
        · rintro rfl
          exact ⟨_, List.mem_cons_self, .inr hstatus⟩
      cases hcall : (R.read conn input).1 with
      | err kind =>
          rw [hcall] at hlast huninterrupted
          cases kind with
          | interrupted => exact absurd rfl huninterrupted
          | _ => exact hlast _ rfl
      | ok data =>
          cases data with
          | nil =>
              rw [hcall] at hlast
              exact hlast _ rfl
          | cons b data =>
              have hbytes := hR.bytes conn input (b :: data) hcall
              rw [List.length_cons] at hbytes
              have hless : held (R.read conn input).2.1 + total (R.read conn input).2.2 < size := by
                omega
              refine .of_turn (ih _ hless _ hrest rfl) fun n ↦ ?_
              rw [result_connected hr, hcall]
              rfl

/-- What comes of bytes is a connection, or an error that is not tried again. -/
theorem wrapStream_ok (R : Rustls Accepted Conn) (config : ServerConfig) (taken data : Bytes) :
    (∃ conn taken', R.wrapStream config taken (.ok data) = (.ok conn, taken')) ∨
      ∃ taken', R.wrapStream config taken (.ok data) = (.error .other, taken') := by
  rw [Rustls.wrapStream]
  cases R.accept (taken ++ data) with
  | error e => exact .inr ⟨_, rfl⟩
  | ok acceptedOpt =>
      cases acceptedOpt with
      | none => exact .inr ⟨_, rfl⟩
      | some accepted =>
          cases hconn : R.intoConnection accepted config with
          | error e =>
              simp only [hconn]
              exact .inr ⟨_, rfl⟩
          | ok conn =>
              simp only [hconn]
              exact .inl ⟨conn, _, rfl⟩

/-- An acceptor whose socket has something comes to an end too. -/
theorem returns_accepting (hR : R.Conserves held) (taken : Bytes) {call : ReadCall}
    (hinput : ∀ call' ∈ call :: input, IsOk call') :
    Returns R config (accepting raw config keepaliveOpt) (.accepting taken) (call :: input) := by
  obtain ⟨data, rfl⟩ := hinput call List.mem_cons_self
  rcases wrapStream_ok R config taken data with ⟨conn, taken', hwrap⟩ | ⟨taken', hwrap⟩
  · have hturn : R.turn config (.accepting taken) (.ok data :: input) =
        (⟨.err .wouldBlock, .ok (), .other, .ok ()⟩, .connected conn, input) := by
      simp only [Rustls.turn, readSocket, hwrap]
    have hconnected : Returns R config ⟨.rustlsServerConnection raw, keepaliveOpt⟩
        (.connected conn) input :=
      returns_connected hR rfl conn fun call hcall ↦ hinput call (List.mem_cons_of_mem _ hcall)
    refine .of_turn (by rwa [hturn]) fun n ↦ ?_
    rw [hturn]
    exact result_wrapped hwrap
  · have hkind : ErrorKind.other ≠ .wouldBlock := nofun
    refine ⟨0 + 1, .disconnected, _, result_failed hkind hwrap, fun _ ↦ ?_⟩
    rw [answers_accepting hwrap]
    exact ⟨_, List.mem_cons_self, .inl ⟨_, rfl, hkind⟩⟩

/-- An acceptor whose socket has nothing is tried again, however often. -/
theorem result_idle (taken : Bytes) (n : Nat) :
    (Remote.receive (accepting raw config keepaliveOpt)
      (R.answers config n (.accepting taken) [])).result = .error .running := by
  induction n with
  | zero => rfl
  | succ n ih => exact (result_again rfl).trans ih

/-- **When `receive` comes to an end**: unless the stream is an acceptor whose socket has nothing
to read.  Then it is tried again without end. -/
theorem receive_returns_iff (hR : R.Conserves held) (hfits : Fits config r.stream tls)
    (hinput : ∀ call ∈ input, IsOk call) :
    Returns R config r tls input ↔ ¬ (r.stream.isAcceptor = true ∧ input = []) := by
  obtain ⟨stream, keepaliveOpt⟩ := r
  cases hfits with
  | client sock conn =>
      exact iff_of_true (returns_connected hR rfl conn hinput) fun h ↦ nomatch h.1
  | server sock conn =>
      exact iff_of_true (returns_connected hR rfl conn hinput) fun h ↦ nomatch h.1
  | accepting raw taken =>
      cases input with
      | nil =>
          refine iff_of_false ?_ (not_not_intro ⟨rfl, rfl⟩)
          rintro ⟨n, status, r', hresult, -⟩
          cases (result_idle taken n).symm.trans hresult
      | cons call input =>
          exact iff_of_true (returns_accepting hR taken hinput) fun h ↦ nomatch h.2

end

/-- What is promised of connections holds of those that have nothing to read. -/
theorem acceptorOf_conserves (hello : Bytes) : (acceptorOf hello).Conserves fun _ ↦ 0 where
  bytes _ _ _ hread := nomatch hread
  uninterrupted _ _ hinput := ⟨nofun, hinput⟩

/-- An acceptor that gets the client hello comes to an end. -/
theorem receive_returns_whole :
    Returns (acceptorOf clientHello) ⟨0⟩ (accepting ⟨0⟩ ⟨0⟩ none) (.accepting [])
      [.ok clientHello] := by
  refine (receive_returns_iff (acceptorOf_conserves _) (.accepting _ _) ?_).2 fun h ↦ nomatch h.2
  intro call hcall
  exact ⟨_, List.mem_singleton.1 hcall⟩

/-- **A peer that connects and says nothing** keeps its worker in the loop. -/
theorem receive_spins :
    (acceptorOf clientHello).Conserves (fun _ ↦ 0) ∧
      ¬ Returns (acceptorOf clientHello) ⟨0⟩ (accepting ⟨0⟩ ⟨0⟩ none) (.accepting []) [] ∧
        ∀ n, (Remote.receive (accepting ⟨0⟩ ⟨0⟩ none)
          ((acceptorOf clientHello).answers ⟨0⟩ n (.accepting []) [])).result =
            .error .running := by
  refine ⟨acceptorOf_conserves _, ?_, result_idle []⟩
  rintro ⟨n, status, r', hresult, -⟩
  cases (result_idle [] n).symm.trans hresult

end Ssl

end MessageIo
