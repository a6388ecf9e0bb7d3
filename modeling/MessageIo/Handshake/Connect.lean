import MessageIo.Handshake.Machine
import MessageIo.Lib.Proc

/-!
# Connecting, and the redirects that are followed (`adapters/ws/client.rs`)

`connect_with_config` connects to a server and does the handshake.  Where the answer is a redirect
that says where to go, it tries again there, `max_redirects` times at most.  Names, connections,
handshakes and what `http` makes of a status, of headers and of a `Uri` are left to a `Net`.

The number of attempts is `max_redirects + 1`, computed in a byte.  At the end of that type there
is no such byte: the sum panics where overflow is checked, and is zero where it is not, so that the
loop ends before its first attempt and what comes behind it is `unreachable!()`.  This is the only
way to fail (`fine_connectWithConfig`).
-/

namespace MessageIo

namespace Ws

namespace Client

/-! ## Requests and responses -/

/-- An `http::Uri`, as far as it is asked for. -/
structure RequestUri extends Uri where
  scheme : Option String
  port : Option UInt16
  /-- `to_string` -/
  text : String
deriving DecidableEq, Repr

/-- The names of headers with their values. -/
abbrev HeaderMap := List (String × Bytes)

/-- A request without a body, which is what `request::Parts` are. -/
structure Request where
  method : String
  uri : RequestUri
  version : String
  headers : HeaderMap
deriving DecidableEq, Repr

structure Response where
  status : UInt16
  headers : HeaderMap
  body : Option Bytes
deriving DecidableEq, Repr

inductive UrlError where
  | noHostName
  | unableToConnect (uri : String)
  | unsupportedUrlScheme
deriving DecidableEq, Repr

/-- The errors of a connection that is to be made. -/
inductive ConnectError where
  | url (e : UrlError)
  | io (kind : ErrorKind)
  | utf8
  | httpFormat
  /-- The response is the reason. -/
  | http (res : Response)
  /-- Any other error of a handshake. -/
  | failure (e : Failure)

/-- Where `connect_with_config` panics. -/
inductive Bug where
  /-- "attempt to add with overflow" -/
  | overflow
  /-- "Bug in a redirect handling logic" -/
  | redirect
  /-- "Bug: blocking handshake not blocked" -/
  | interrupted
  /-- A bracket that stands alone is a host. -/
  | host
deriving DecidableEq, Repr

/-- A type that is converted into a request. -/
class IntoClientRequest (Req : Type) where
  intoClientRequest : Req → Except ConnectError Request

instance : IntoClientRequest Request where
  intoClientRequest := .ok

/-- How a handshake ends. -/
inductive Handshake (Connection : Type) where
  | done (connection : Connection)
  | failure (e : ConnectError)
  | interrupted

/-- What is around a client.  The number is that of the attempt: what is asked again may be
answered in another way. -/
structure Net (Stream Connection : Type) where
  /-- `Uri::from_str` -/
  parseUri : String → Option RequestUri
  /-- `StatusCode::is_redirection` -/
  isRedirection : UInt16 → Bool
  /-- `HeaderMap::get` -/
  getHeader : HeaderMap → String → Option Bytes
  /-- `HeaderValue::to_str` -/
  toStr : Bytes → Option String
  toSocketAddrs : Nat → String → UInt16 → Except ErrorKind (List SocketAddr)
  /-- `TcpStream::connect` -/
  tcpConnect : Nat → SocketAddr → Option Stream
  setNodelay : Nat → Stream → Except ErrorKind Unit
  handshake : Nat → Request → Stream → Option WebSocketConfig → Handshake Connection

/-! ## One attempt -/

inductive Mode where
  | plain
  | tls

/-- Get the mode of the given URL. -/
def uriMode (uri : RequestUri) : Except ConnectError Mode :=
  match uri.scheme with
  | some "ws" => .ok .plain
  | some "wss" => .ok .tls
  | _ => .error (.url .unsupportedUrlScheme)

/-- A host without the brackets of an IPv6 address. -/
def unbracketed (host : String) : Except Bug String :=
  match host.toList with
  | '[' :: rest => if rest = [] then .error .host else .ok (String.ofList rest.dropLast)
  | _ => .ok host

/-- What an attempt ends in. -/
abbrev Outcome (Connection : Type) := Except Bug (Except ConnectError Connection)

namespace Net

variable {Stream Connection : Type} (net : Net Stream Connection)

/-- The first of some addresses that answers. -/
def connectToSome (attempt : Nat) (addrs : List SocketAddr) (uri : RequestUri) :
    Except ConnectError Stream :=
  match addrs.findSome? (net.tcpConnect attempt) with
  | some stream => .ok stream
  | none => .error (.url (.unableToConnect uri.text))

/-- A handshake over a stream that is connected. -/
def wsConnectWithConfig (attempt : Nat) (request : Request) (stream : Stream)
    (config : Option WebSocketConfig) : Outcome Connection :=
  match net.handshake attempt request stream config with
  | .done connection => .ok (.ok connection)
  | .failure e => .ok (.error e)
  | .interrupted => .error .interrupted

def tryClientHandshake (attempt : Nat) (request : Request) (config : Option WebSocketConfig) :
    Outcome Connection :=
  match uriMode request.uri with
  | .error e => .ok (.error e)
  | .ok mode =>
      match request.uri.host with
      | none => .ok (.error (.url .noHostName))
      | some host =>
          match unbracketed host with
          | .error bug => .error bug
          | .ok host =>
              let port := request.uri.port.getD (match mode with
                | .plain => 80
                | .tls => 443)
              match net.toSocketAddrs attempt host port with
              | .error kind => .ok (.error (.io kind))
              | .ok addrs =>
                  match net.connectToSome attempt addrs request.uri with
                  | .error e => .ok (.error e)
                  | .ok stream =>
                      match net.setNodelay attempt stream with
                      | .error kind => .ok (.error (.io kind))
                      | .ok () => net.wsConnectWithConfig attempt request stream config

/-! ## All attempts -/

def createRequest (parts : Request) (uri : RequestUri) : Request := { parts with uri := uri }

/-- Where a `Location` leads. -/
def readLocation (location : Bytes) : Except ConnectError RequestUri :=
  match net.toStr location with
  | none => .error .utf8
  | some text =>
      match net.parseUri text with
      | none => .error .httpFormat
      | some uri => .ok uri

/-- The loop over the attempts that are left, which leaves behind the requests it has tried. -/
def connectLoop (config : Option WebSocketConfig) (parts : Request) (maxRedirects : Nat) :
    Nat → Nat → RequestUri → Proc Request Bug (Except ConnectError Connection)
  | 0, _, _ => Proc.halt .redirect
  | left + 1, attempt, uri => do
      let request := createRequest parts uri
      Proc.effect request
      match ← Proc.ofExcept (net.tryClientHandshake attempt request config) with
      | .error (.http res) =>
          if net.isRedirection res.status ∧ attempt < maxRedirects then
            match net.getHeader res.headers "Location" with
            | some location =>
                match net.readLocation location with
                | .ok uri => connectLoop config parts maxRedirects left (attempt + 1) uri
                | .error e => return .error e
            | none => return .error (.http res)
          else return .error (.http res)
      | other => return other

/-- `max_redirects + 1`, where overflow is checked or not. -/
def attemptBound (checked : Bool) (maxRedirects : UInt8) : Except Bug UInt8 :=
  if checked ∧ 2 ^ 8 ≤ maxRedirects.toNat + 1 then .error .overflow else .ok (maxRedirects + 1)

/-- Connect to the given WebSocket in blocking mode. -/
def connectWithConfig {Req : Type} [IntoClientRequest Req] (checked : Bool) (request : Req)
    (config : Option WebSocketConfig) (maxRedirects : UInt8) :
    Proc Request Bug (Except ConnectError Connection) :=
  match IntoClientRequest.intoClientRequest request with
  | .error e => return .error e
  | .ok parts => do
      let bound ← Proc.ofExcept (attemptBound checked maxRedirects)
      net.connectLoop config parts maxRedirects.toNat bound.toNat 0 parts.uri

/-- Connect to the given WebSocket in blocking mode. -/
def connect {Req : Type} [IntoClientRequest Req] (checked : Bool) (request : Req) :
    Proc Request Bug (Except ConnectError Connection) :=
  net.connectWithConfig checked request none 3

/-! ## What is right -/

/-- Where an answer redirects to, if it is a redirect with a `Location`. -/
def location? : Outcome Connection → Option (Except ConnectError RequestUri)
  | .ok (.error (.http res)) =>
      if net.isRedirection res.status then
        (net.getHeader res.headers "Location").map net.readLocation
      else none
  | _ => none

/-- The answer to an attempt. -/
def answer (config : Option WebSocketConfig) (parts : Request) (attempt : Nat) (uri : RequestUri) :
    Outcome Connection :=
  net.tryClientHandshake attempt (createRequest parts uri) config

/-- **Redirects are followed**: where it has been tried, and where it is tried next. -/
inductive Followed (config : Option WebSocketConfig) (parts : Request) (maxRedirects : Nat) :
    List RequestUri → RequestUri → Prop
  | start : Followed config parts maxRedirects [] parts.uri
  | redirect {uris : List RequestUri} {uri next : RequestUri}
      (h : Followed config parts maxRedirects uris uri) (hlt : uris.length < maxRedirects)
      (hnext : net.location? (net.answer config parts uris.length uri) = some (.ok next)) :
      Followed config parts maxRedirects (uris ++ [uri]) next

/-- **The last answer decides**: it is no redirect that is followed, and it is what is returned,
unless it is a redirect whose `Location` cannot be read. -/
structure Decides (maxRedirects attempt : Nat) (answer : Outcome Connection)
    (result : Outcome Connection) : Prop where
  last : attempt < maxRedirects → ∀ uri, net.location? answer ≠ some (.ok uri)
  unreadable : attempt < maxRedirects → ∀ e, net.location? answer = some (.error e) →
    result = .ok (.error e)
  returned : (attempt < maxRedirects → ∀ e, net.location? answer ≠ some (.error e)) →
    result = answer

/-- **What a call should do.**  It makes one attempt more than there may be redirects, at most.  It
returns the first answer that is not a redirect it follows.  It does not panic by itself. -/
structure Fine (config : Option WebSocketConfig) (request : Except ConnectError Request)
    (maxRedirects : UInt8) (out : Proc Request Bug (Except ConnectError Connection)) : Prop where
  attempts : out.effects.length ≤ maxRedirects.toNat + 1
  overflow : out.result ≠ .error .overflow
  redirect : out.result ≠ .error .redirect
  refused : ∀ e, request = .error e → out.effects = [] ∧ out.result = .ok (.error e)
  answered : ∀ parts, request = .ok parts → ∃ uris uri,
    net.Followed config parts maxRedirects.toNat uris uri ∧
      out.effects = (uris ++ [uri]).map (createRequest parts) ∧
      net.Decides maxRedirects.toNat uris.length (net.answer config parts uris.length uri)
        out.result

section

variable {net} {config : Option WebSocketConfig} {parts : Request} {maxRedirects : Nat}
  {uris : List RequestUri} {uri : RequestUri}

/-- Not more redirects are followed than allowed. -/
theorem Followed.length_le (h : net.Followed config parts maxRedirects uris uri) :
    uris.length ≤ maxRedirects := by
  cases h with
  | start => exact Nat.zero_le _
  | redirect h hlt hnext =>
      rw [List.length_append]
      exact hlt

/-- A host panics for its bracket only. -/
theorem unbracketed_bug {host : String} {bug : Bug} (h : unbracketed host = .error bug) :
    bug = .host := by
  rw [unbracketed] at h
  split at h
  · split at h
    · cases h
      rfl
    · cases h
  · cases h

/-- An attempt panics for reasons of its own only. -/
theorem tryClientHandshake_bug {attempt : Nat} {request : Request} {bug : Bug}
    (h : net.tryClientHandshake attempt request config = .error bug) :
    bug = .interrupted ∨ bug = .host := by
  rw [tryClientHandshake] at h
  split at h
  · cases h
  · split at h
    · cases h
    · split at h
      · rename_i hhost
        cases h
        exact .inr (unbracketed_bug hhost)
      · simp only at h
        split at h
        · cases h
        · split at h
          · cases h
          · split at h
            · cases h
            · rw [wsConnectWithConfig] at h
              split at h
              · cases h
              · cases h
              · cases h
                exact .inl rfl

/-- An answer that is no redirect with a `Location`, or comes at the last attempt, is returned. -/
theorem Decides.of_returned {attempt : Nat} {answer : Outcome Connection}
    (h : attempt < maxRedirects → net.location? answer = none) :
    net.Decides maxRedirects attempt answer answer := by
  refine ⟨fun hlt uri ↦ ?_, fun hlt e hloc ↦ ?_, fun _ ↦ rfl⟩
  · rw [h hlt]
    rintro ⟨⟩
  · rw [h hlt] at hloc
    cases hloc

/-- **One turn of the loop** follows a redirect, or its answer decides. -/
theorem connectLoop_succ (left attempt : Nat) (uri : RequestUri) :
    (∃ next, attempt < maxRedirects ∧
      net.location? (net.answer config parts attempt uri) = some (.ok next) ∧
      net.connectLoop config parts maxRedirects (left + 1) attempt uri =
        Proc.effect (createRequest parts uri) >>= fun _ ↦
          net.connectLoop config parts maxRedirects left (attempt + 1) next) ∨
    ∃ result, net.Decides maxRedirects attempt (net.answer config parts attempt uri) result ∧
      net.connectLoop config parts maxRedirects (left + 1) attempt uri =
        ⟨[createRequest parts uri], result⟩ := by
  rw [connectLoop, answer]
  generalize net.tryClientHandshake attempt (createRequest parts uri) config = outcome
  have hreturned : (attempt < maxRedirects → net.location? outcome = none) →
      ∃ result, net.Decides maxRedirects attempt outcome result ∧
        (⟨[createRequest parts uri], outcome⟩ : Proc Request Bug _) =
          ⟨[createRequest parts uri], result⟩ := fun h ↦ ⟨outcome, .of_returned h, rfl⟩
  rcases outcome with bug | e | connection
  · exact .inr (hreturned fun _ ↦ rfl)
  · cases e with
    | http res =>
        by_cases hfollow : net.isRedirection res.status ∧ attempt < maxRedirects
        · have hlocation : net.location? (.ok (.error (.http res)) : Outcome Connection) =
              (net.getHeader res.headers "Location").map net.readLocation := if_pos hfollow.1
          simp only [Proc.ofExcept_ok_bind, if_pos hfollow]
          cases hheader : net.getHeader res.headers "Location" with
          | none =>
              rw [hheader] at hlocation
              exact .inr (hreturned fun _ ↦ hlocation)
          | some value =>
              rw [hheader, Option.map_some] at hlocation
              cases hread : net.readLocation value with
              | ok next =>
                  rw [hread] at hlocation
                  simp only [hread]
                  exact .inl ⟨next, hfollow.2, hlocation, rfl⟩
              | error e =>
                  rw [hread] at hlocation
                  simp only [hread]
                  refine .inr ⟨.ok (.error e), ⟨fun _ uri ↦ ?_, fun _ e' he' ↦ ?_, fun h ↦ ?_⟩, rfl⟩
                  · rw [hlocation]
                    rintro ⟨⟩
                  · cases hlocation.symm.trans he'
                    rfl
                  · exact absurd hlocation (h hfollow.2 e)
        · simp only [Proc.ofExcept_ok_bind, if_neg hfollow]
          refine .inr (hreturned fun hlt ↦ if_neg fun hres ↦ hfollow ⟨hres, hlt⟩)
    | url e => exact .inr (hreturned fun _ ↦ rfl)
    | io kind => exact .inr (hreturned fun _ ↦ rfl)
    | utf8 => exact .inr (hreturned fun _ ↦ rfl)
    | httpFormat => exact .inr (hreturned fun _ ↦ rfl)
    | failure e => exact .inr (hreturned fun _ ↦ rfl)
  · exact .inr (hreturned fun _ ↦ rfl)

end

/-- **The loop** follows redirects until an answer decides. -/
theorem connectLoop_answered {config : Option WebSocketConfig} {parts : Request}
    {maxRedirects left : Nat} {uris : List RequestUri} {uri : RequestUri}
    (h : net.Followed config parts maxRedirects uris uri)
    (hleft : uris.length + left = maxRedirects + 1) :
    ∃ more uri', net.Followed config parts maxRedirects (uris ++ more) uri' ∧
      (net.connectLoop config parts maxRedirects left uris.length uri).effects =
        (more ++ [uri']).map (createRequest parts) ∧
      net.Decides maxRedirects (uris ++ more).length
        (net.answer config parts (uris ++ more).length uri')
        (net.connectLoop config parts maxRedirects left uris.length uri).result := by
  induction left generalizing uris uri with
  | zero =>
      have hle := h.length_le
      omega
  | succ left ih =>
      rcases @connectLoop_succ _ _ net config parts maxRedirects left uris.length uri with
        ⟨next, hlt, hnext, heq⟩ | ⟨result, hresult, heq⟩
      · have hlength : (uris ++ [uri]).length = uris.length + 1 := List.length_append
        obtain ⟨more, uri', hmore, heffects, hdecides⟩ :=
          ih (h.redirect hlt hnext) (by rw [hlength]; omega)
        rw [hlength] at heffects hdecides
        rw [List.append_assoc] at hmore hdecides
        refine ⟨uri :: more, uri', hmore, ?_, ?_⟩
        · rw [heq, Proc.effects_bind_ok rfl, heffects]
          rfl
        · rw [heq, Proc.result_bind_ok rfl]
          exact hdecides
      · refine ⟨[], uri, ?_, ?_, ?_⟩
        · rw [List.append_nil]
          exact h
        · rw [heq]
          rfl
        · rw [heq, List.append_nil]
          exact hresult

/-- A loop of as many attempts as it takes is right. -/
theorem fine_connectLoop (config : Option WebSocketConfig) (parts : Request)
    (maxRedirects : UInt8) :
    net.Fine config (.ok parts) maxRedirects
      (net.connectLoop config parts maxRedirects.toNat (maxRedirects.toNat + 1) 0 parts.uri) := by
  obtain ⟨uris, uri, hfollowed, heffects, hdecides⟩ :=
    @connectLoop_answered _ _ net config parts maxRedirects.toNat (maxRedirects.toNat + 1) [] _
      .start (Nat.zero_add _)
  rw [List.nil_append] at hfollowed hdecides
  rw [List.length_nil] at heffects hdecides
  have hbug : ∀ bug, (net.connectLoop config parts maxRedirects.toNat (maxRedirects.toNat + 1) 0
      parts.uri).result = .error bug → bug = .interrupted ∨ bug = .host := by
    intro bug hbug
    by_cases hread : ∃ e, uris.length < maxRedirects.toNat ∧
        net.location? (net.answer config parts uris.length uri) = some (.error e)
    · obtain ⟨e, hlt, hloc⟩ := hread
      cases hbug.symm.trans (hdecides.unreadable hlt e hloc)
    · have hanswer := hdecides.returned fun hlt e hloc ↦ hread ⟨e, hlt, hloc⟩
      exact tryClientHandshake_bug (hanswer.symm.trans hbug)
  constructor
  · rw [heffects, List.length_map, List.length_append]
    exact Nat.succ_le_succ hfollowed.length_le
  · intro h
    rcases hbug _ h with h | h
    · cases h
    · cases h
  · intro h
    rcases hbug _ h with h | h
    · cases h
    · cases h
  · rintro e ⟨⟩
  · intro parts' hparts
    cases hparts
    exact ⟨uris, uri, hfollowed, heffects, hdecides⟩

/-- The number of attempts is right below the end of its type. -/
theorem attemptBound_of_lt (checked : Bool) {maxRedirects : UInt8} (h : maxRedirects ≠ 255) :
    ∃ bound, attemptBound checked maxRedirects = .ok bound ∧
      bound.toNat = maxRedirects.toNat + 1 := by
  have hlt : maxRedirects.toNat + 1 < 2 ^ 8 := by
    have hne : maxRedirects.toNat ≠ 255 := fun heq ↦ h (UInt8.toNat.inj heq)
    have hle := maxRedirects.toNat_lt
    omega
  refine ⟨maxRedirects + 1, ?_, ?_⟩
  · rw [attemptBound, if_neg fun hover ↦ Nat.not_le.2 hlt hover.2]
  · rw [UInt8.toNat_add]
    exact Nat.mod_eq_of_lt hlt

/-- **Where the number of attempts is no byte**, nothing is attempted: the call panics, at the sum
or behind its loop. -/
theorem connectWithConfig_overflow {Req : Type} [IntoClientRequest Req] (checked : Bool)
    {request : Req} {parts : Request}
    (h : IntoClientRequest.intoClientRequest request = .ok parts)
    (config : Option WebSocketConfig) :
    net.connectWithConfig checked request config 255 =
      Proc.halt (if checked then .overflow else .redirect) := by
  rw [connectWithConfig, h]
  cases checked with
  | true => rfl
  | false => rfl

/-- Where there is no request there are no attempts. -/
theorem fine_refused (config : Option WebSocketConfig) (maxRedirects : UInt8) (e : ConnectError) :
    net.Fine config (.error e) maxRedirects (pure (.error e)) := by
  refine ⟨Nat.zero_le _, by rintro ⟨⟩, by rintro ⟨⟩, ?_, by rintro parts ⟨⟩⟩
  intro e' he'
  cases he'
  exact ⟨rfl, rfl⟩

/-- A call is right if the number of attempts is a byte. -/
theorem fine_of_ne {Req : Type} [IntoClientRequest Req] (checked : Bool) (request : Req)
    (config : Option WebSocketConfig) {maxRedirects : UInt8} (hmax : maxRedirects ≠ 255) :
    net.Fine config (IntoClientRequest.intoClientRequest request) maxRedirects
      (net.connectWithConfig checked request config maxRedirects) := by
  cases hreq : IntoClientRequest.intoClientRequest request with
  | error e =>
      rw [connectWithConfig, hreq]
      exact fine_refused net config maxRedirects e
  | ok parts =>
      obtain ⟨bound, hbound, hnat⟩ := attemptBound_of_lt checked hmax
      have heq : net.connectWithConfig checked request config maxRedirects =
          net.connectLoop config parts maxRedirects.toNat (maxRedirects.toNat + 1) 0
            parts.uri := by
        rw [connectWithConfig, hreq, hbound, ← hnat]
        rfl
      rw [heq]
      exact fine_connectLoop net config parts maxRedirects

/-- `connect` is right. -/
theorem fine_connect {Req : Type} [IntoClientRequest Req] (checked : Bool) (request : Req) :
    net.Fine none (IntoClientRequest.intoClientRequest request) 3 (net.connect checked request) :=
  fine_of_ne net checked request none (by decide)

/-- **Connecting is right unless the number of attempts is no byte**, whatever the server answers:
a call that may follow at most `max_redirects` redirects makes one attempt more than that at most,
returns the first answer that is not a redirect it follows, and does not panic by itself, if and
only if `max_redirects` is not 255 or there is no request to begin with. -/
theorem fine_connectWithConfig {Req : Type} [IntoClientRequest Req] (checked : Bool)
    (request : Req) (config : Option WebSocketConfig) (maxRedirects : UInt8) :
    net.Fine config (IntoClientRequest.intoClientRequest request) maxRedirects
        (net.connectWithConfig checked request config maxRedirects) ↔
      maxRedirects ≠ 255 ∨ ∃ e, IntoClientRequest.intoClientRequest request = .error e := by
  constructor
  · intro hfine
    cases hreq : IntoClientRequest.intoClientRequest request with
    | error e => exact .inr ⟨e, rfl⟩
    | ok parts =>
        refine .inl fun hmax ↦ ?_
        rw [hmax, connectWithConfig_overflow net checked hreq] at hfine
        cases checked with
        | true => exact hfine.overflow rfl
        | false => exact hfine.redirect rfl
  · rintro (hmax | ⟨e, he⟩)
    · exact fine_of_ne net checked request config hmax
    · rw [connectWithConfig, he]
      exact fine_refused net config maxRedirects e

/-- A server that accepts everybody. -/
def accepting : Net Unit Unit where
  parseUri _ := none
  isRedirection status := 300 ≤ status && status < 400
  getHeader headers name := (headers.find? fun h ↦ h.1 = name).map (·.2)
  toStr value :=
    if value.all fun b ↦ 32 ≤ b && b < 127 then
      some (String.ofList (value.map fun b ↦ Char.ofNat b.toNat))
    else none
  toSocketAddrs _ _ _ := .ok [.localhost 80]
  tcpConnect _ _ := some ()
  setNodelay _ _ := .ok ()
  handshake _ _ _ _ := .done ()

/-- A request to the server that accepts everybody. -/
def localRequest : Request := ⟨"GET", ⟨⟨some "localhost"⟩, some "ws", none, "ws://localhost/"⟩,
  "HTTP/1.1", []⟩

/-- The first attempt is accepted. -/
theorem accepting_accepts :
    accepting.tryClientHandshake 0 localRequest none = .ok (.ok ()) := by
  have hhost : unbracketed "localhost" = .ok "localhost" := by
    rfl
  simp only [Net.tryClientHandshake, localRequest, uriMode, hhost]
  rfl

/-- **The number of attempts overflows.**  One redirect less, and the server accepts; but with 255
there is a panic, whether overflow is checked or not, before anything has been attempted. -/
theorem accepting_overflow :
    accepting.connectWithConfig true localRequest none 254 = ⟨[localRequest], .ok (.ok ())⟩ ∧
      accepting.connectWithConfig true localRequest none 255 = Proc.halt .overflow ∧
      accepting.connectWithConfig false localRequest none 255 = Proc.halt .redirect ∧
      ∀ checked, ¬ accepting.Fine none (.ok localRequest) 255
        (accepting.connectWithConfig checked localRequest none 255) := by
  refine ⟨?_, rfl, rfl, fun checked hfine ↦ ?_⟩
  · change accepting.connectLoop none localRequest 254 255 0 localRequest.uri = _
    rw [connectLoop]
    change (Proc.effect localRequest >>= fun _ ↦
      Proc.ofExcept (accepting.tryClientHandshake 0 localRequest none) >>= _) = _
    rw [accepting_accepts]
    rfl
  cases checked with
  | true => exact hfine.overflow rfl
  | false => exact hfine.redirect rfl

end Net

end Client

end Ws

end MessageIo
