import MessageIo.Handshake.Http

/-!
# The opening handshake (`handshake/client.rs`, `handshake/server.rs`, `adapters/ws/client.rs`)

A client writes a request, in which it names a key; a server answers it with a response, into which
it puts what it derives from the key; and the client verifies the response.  The machine and the
roles are those of `Handshake.Machine`: here is what they are given.

`generate_request` writes five headers first, takes them from the map and then looks for them among
what is left.
-/

namespace MessageIo

namespace Ws

namespace Opening

variable {crates : Crates}

/-! ## Keys -/

/-- Derive the `Sec-WebSocket-Accept` response header from a `Sec-WebSocket-Key` request header. -/
def deriveAcceptKey (crates : Crates) (requestKey : Bytes) : Bytes :=
  crates.base64 (crates.sha1 (requestKey ++ Utf8.encode "258EAFA5-E914-47DA-95CA-C5AB0DC85B11"))

/-- Generate a key for the `Sec-WebSocket-Key` header, of sixteen bytes that are drawn. -/
def generateKey (crates : Crates) (random : Bytes) : Bytes := crates.base64 random

/-! ## The request of a client -/

/-- The headers that a builder is given, each as a name and a text: it appends them, and fails at
the end if one of them is none. -/
def buildHeaders (crates : Crates) (fields : List (Bytes × Bytes)) : Option crates.HeaderMap :=
  fields.foldlM (fun headers f ↦ do
    let name ← crates.nameFromBytes f.1
    let value ← crates.valueFromStr f.2
    return crates.append headers name value) crates.newMap

/-- The host of an authority: what is behind the first `@`, if there is one. -/
def hostOf (authority : Bytes) : Bytes :=
  match authority.dropWhile (· ≠ 64) with
  | [] => authority
  | _ :: host => host

/-- `Uri::into_client_request`, with the key that has been generated. -/
def RequestUri.intoClientRequest (crates : Crates) (key : Bytes) (uri : RequestUri) :
    Except (Fault crates) (Request crates) :=
  match uri.authority with
  | none => .error (.url .noHostName)
  | some authority =>
      let host := hostOf authority
      if host = [] then .error (.url .emptyHostName)
      else
        match buildHeaders crates
            [(Utf8.encode "Host", host), (Utf8.encode "Connection", Utf8.encode "Upgrade"),
              (Utf8.encode "Upgrade", Utf8.encode "websocket"),
              (Utf8.encode "Sec-WebSocket-Version", Utf8.encode "13"),
              (Utf8.encode "Sec-WebSocket-Key", key)] with
        | none => .error .httpFormat
        | some headers => .ok ⟨.get, uri, .http11, headers, ()⟩

/-- `KEY_HEADERNAME` -/
def keyHeadername : Bytes := Utf8.encode "Sec-WebSocket-Key"

/-- Headers that must be present in a correct request. -/
def websocketHeaders : List Bytes :=
  [Utf8.encode "Host", Utf8.encode "Connection", Utf8.encode "Upgrade",
    Utf8.encode "Sec-WebSocket-Version", keyHeadername]

/-- The line of a header. -/
def headerLine (name value : Bytes) : Bytes := Head.Field.line (name, value) ++ Head.crlf

/-- The headers that are necessary are written, and taken from the map. -/
def writeNecessary : List Bytes → crates.HeaderMap →
    Except (Fault crates) (Bytes × crates.HeaderMap)
  | [], headers => .ok ([], headers)
  | header :: more, headers =>
      match crates.remove headers header with
      | (none, _) => .error (invalidHeader header)
      | (some value, headers) =>
          match crates.toStr value with
          | none => .error .utf8
          | some value => do
              let (req, headers) ← writeNecessary more headers
              return (headerLine header value ++ req, headers)

/-- The name of a header, as it is written if it is not necessary. -/
def writtenName (name : Bytes) : Bytes :=
  -- some servers treat headers in a case-sensitive way
  if name = Utf8.encode "sec-websocket-protocol" then Utf8.encode "Sec-WebSocket-Protocol"
  else if name = Utf8.encode "origin" then Utf8.encode "Origin"
  else name

/-- The headers that are left, as the map hands them out. -/
def writeOthers : List (crates.HeaderName × crates.HeaderValue) → Except (Fault crates) Bytes
  | [] => .ok []
  | (k, v) :: more =>
      if websocketHeaders.any fun h ↦ lower h = crates.asStr k then
        .error (.protocol (.invalidHeader k))
      else
        match crates.toStr v with
        | none => .error .utf8
        | some value => do
            let req ← writeOthers more
            return headerLine (writtenName (crates.asStr k)) value ++ req

/-- The first line of a request. -/
def requestLine (crates : Crates) (path : Bytes) (version : Version) : Bytes :=
  Utf8.encode "GET " ++ path ++ 32 :: crates.debug version

/-- Verifies and generates a client WebSocket request from the original request and extracts a
WebSocket key from it. -/
def generateRequest (request : Request crates) : Except (Fault crates) (Bytes × Bytes) :=
  match request.uri.pathAndQuery with
  | none => .error (.url .noPathOrQuery)
  | some path =>
      match crates.get request.headers keyHeadername with
      | none => .error (invalidHeader keyHeadername)
      | some key =>
          match crates.toStr key with
          | none => .error .utf8
          | some key => do
              let (necessary, headers) ← writeNecessary websocketHeaders request.headers
              let others ← writeOthers (crates.iter headers)
              return (requestLine crates path request.version ++ Head.crlf ++ necessary ++ others ++
                Head.crlf, key)

/-- Information for handshake verification. -/
structure VerifyData where
  /-- Accepted server key. -/
  acceptKey : Bytes
deriving DecidableEq

/-- `uri_mode` -/
def uriMode (uri : RequestUri) : Except (Fault crates) Client.Mode :=
  match Client.uriMode uri.toRequestUri with
  | .ok mode => .ok mode
  | .error _ => .error (.url .unsupportedUrlScheme)

/-- What a client starts with: the request in bytes, and what it will verify. -/
def startData (request : Request crates) : Except (Fault crates) (Bytes × VerifyData) :=
  if request.method ≠ .get then .error (.protocol .wrongHttpMethod)
  else if request.version.number < Version.http11.number then .error (.protocol .wrongHttpVersion)
  else do
    let _ ← uriMode request.uri
    let (data, key) ← generateRequest request
    return (data, ⟨deriveAcceptKey crates key⟩)

/-! ## The response of a server -/

/-- One of the pieces between blanks and commas is `Upgrade`. -/
def namesUpgrade (value : Bytes) : Bool :=
  (value.splitOnP fun c ↦ c = 32 || c = 44).any fun p ↦ eqIgnoreAsciiCase p (Utf8.encode "Upgrade")

/-- A header is there, its first value is a text, and `p` holds of the text. -/
def textIs (headers : crates.HeaderMap) (header : Bytes) (p : Bytes → Bool) : Bool :=
  (((crates.get headers header).bind crates.toStr).map p).getD false

/-- `create_parts`, with a body: the headers come from a builder, which fails at the end. -/
def createResponseWithBody {T : Type} (request : HttpRequest crates T) (generateBody : Unit → T) :
    Except (Fault crates) (HttpResponse crates T) :=
  if request.method ≠ .get then .error (.protocol .wrongHttpMethod)
  else if request.version.number < Version.http11.number then .error (.protocol .wrongHttpVersion)
  else if textIs request.headers (Utf8.encode "Connection") namesUpgrade = false then
    .error (.protocol .missingConnectionUpgradeHeader)
  else if textIs request.headers (Utf8.encode "Upgrade")
      (eqIgnoreAsciiCase · (Utf8.encode "websocket")) = false then
    .error (.protocol .missingUpgradeWebSocketHeader)
  else if (crates.get request.headers (Utf8.encode "Sec-WebSocket-Version")).map crates.asBytes ≠
      some (Utf8.encode "13") then
    .error (.protocol .missingSecWebSocketVersionHeader)
  else
    match crates.get request.headers (Utf8.encode "Sec-WebSocket-Key") with
    | none => .error (.protocol .missingSecWebSocketKey)
    | some key =>
        match buildHeaders crates
            [(Utf8.encode "Connection", Utf8.encode "Upgrade"),
              (Utf8.encode "Upgrade", Utf8.encode "websocket"),
              (Utf8.encode "Sec-WebSocket-Accept", deriveAcceptKey crates (crates.asBytes key))]
            with
        | none => .error .httpFormat
        | some headers => .ok ⟨.switchingProtocols, request.version, headers, generateBody ()⟩

/-- Create a response for the request. -/
def createResponse (request : Request crates) : Except (Fault crates) (Response crates) :=
  createResponseWithBody request fun () ↦ ()

/-- The lines of the headers of a response. -/
def writeHeaders : List (crates.HeaderName × crates.HeaderValue) → Except (Fault crates) Bytes
  | [] => .ok []
  | (k, v) :: more =>
      match crates.toStr v with
      | none => .error .utf8
      | some value => do
          let output ← writeHeaders more
          return headerLine (crates.asStr k) value ++ output

/-- The first line of a response. -/
def statusLine (crates : Crates) (version : Version) (status : StatusCode) : Bytes :=
  crates.debug version ++ 32 :: crates.display status

/-- Write `response` to a stream. -/
def writeResponse {T : Type} (response : HttpResponse crates T) : Except (Fault crates) Bytes := do
  let headers ← writeHeaders (crates.iter response.headers)
  return statusLine crates response.version response.status ++ Head.crlf ++ headers ++ Head.crlf

/-- A response that refuses is written with its body. -/
def writeErrorResponse (response : ErrorResponse crates) : Except (Fault crates) Bytes := do
  let output ← writeResponse response
  return output ++ response.body.getD []

/-- What a server asks of HTTP; `failure` is how the machine sees a fault. -/
def http (failure : Fault crates → Failure) :
    Http (Request crates) (Response crates) (ErrorResponse crates) where
  createResponse request := (createResponse request).mapError failure
  writeResponse response := (writeResponse response).mapError failure
  writeErrorResponse response := (writeErrorResponse response).mapError failure
  isSuccess response := crates.isSuccess response.status

/-- The role of a server in the machine, before it has read a request. -/
abbrev Server (crates : Crates) :=
  ServerHandshake (Request crates) (Response crates) (ErrorResponse crates)

/-- The role of a server with a callback. -/
def server (failure : Fault crates → Failure)
    (callback : Request crates → Response crates → Except (ErrorResponse crates) (Response crates))
    (config : Option WebSocketConfig) : Server crates :=
  ⟨http failure, some callback, config, none⟩

/-! ## What a client makes of it -/

/-- `VerifyData::verify_response` -/
def VerifyData.verifyResponse (data : VerifyData) (response : ClientResponse crates) :
    Except (Fault crates) (ClientResponse crates) :=
  if response.status.code ≠ StatusCode.switchingProtocols.code then .error (.http response)
  else if textIs response.headers (Utf8.encode "Upgrade")
      (eqIgnoreAsciiCase · (Utf8.encode "websocket")) = false then
    .error (.protocol .missingUpgradeWebSocketHeader)
  else if textIs response.headers (Utf8.encode "Connection")
      (eqIgnoreAsciiCase · (Utf8.encode "Upgrade")) = false then
    .error (.protocol .missingConnectionUpgradeHeader)
  else if (crates.get response.headers (Utf8.encode "Sec-WebSocket-Accept")).map crates.asBytes ≠
      some data.acceptKey then
    .error (.protocol .secWebSocketAcceptKeyMismatch)
  else .ok response

/-- What a client makes of a response with what is behind it: a refusal takes that for its body. -/
def VerifyData.receive (data : VerifyData) (response : ClientResponse crates) (tail : Bytes) :
    Except (Fault crates) (ClientResponse crates) :=
  match data.verifyResponse response with
  | .error (.http response) => .error (.http { response with body := some tail })
  | r => r

/-- The role of a client in the machine. -/
def clientRole (failure : Fault crates → Failure) (data : VerifyData)
    (config : Option WebSocketConfig) : ClientHandshake (ClientResponse crates) where
  verifyResponse response := (data.verifyResponse response).mapError failure
  config := config

/-- `ClientHandshake::start` -/
def startClient (failure : Fault crates → Failure) (stream : Socket) (request : Request crates)
    (config : Option WebSocketConfig) :
    Except (Fault crates) (MidHandshake (ClientHandshake (ClientResponse crates))) := do
  let (data, verifyData) ← startData request
  return ClientHandshake.start stream data (clientRole failure verifyData config)

/-- `impl TryParse for Request` -/
abbrev requestParse (failure : Fault crates → Failure) : TryParse (Request crates) :=
  ⟨fun data ↦ (HttpRequest.tryParse crates data).mapError failure⟩

/-- `impl TryParse for Response` -/
abbrev responseParse (failure : Fault crates → Failure) : TryParse (ClientResponse crates) :=
  ⟨fun data ↦ (HttpResponse.tryParse crates data).mapError failure⟩

end Opening

end Ws

end MessageIo
