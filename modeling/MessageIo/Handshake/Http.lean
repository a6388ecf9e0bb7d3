import MessageIo.Handshake.Connect
import MessageIo.Lib.Head

/-!
# HTTP for an opening handshake (`handshake/headers.rs`, and what `http` and `httparse` give it)

`httparse` finds the parts of a head, and `from_httparse` makes a request or a response of them.
What it does, what the names, the values and the maps of headers are, and what SHA-1, BASE64 and the
texts of status codes are is left to `Crates`.  A text is known by its bytes.
-/

namespace MessageIo

namespace Ws

namespace Opening

/-! ## Texts -/

/-- `u8::to_ascii_lowercase` -/
def lowerByte (b : UInt8) : UInt8 := if 65 ≤ b ∧ b ≤ 90 then b + 32 else b

/-- `to_ascii_lowercase` -/
def lower (b : Bytes) : Bytes := b.map lowerByte

/-- `eq_ignore_ascii_case` -/
def eqIgnoreAsciiCase (b c : Bytes) : Bool := lower b = lower c

/-! ## What is not here -/

/-- `http::Version` -/
inductive Version where
  | http09
  | http10
  | http11
  | http2
  | http3
deriving DecidableEq, Repr

/-- What versions are compared by. -/
def Version.number : Version → Nat
  | http09 => 9
  | http10 => 10
  | http11 => 11
  | http2 => 20
  | http3 => 30

/-- `http::Method` -/
inductive Method where
  | get
  | other (name : Bytes)
deriving DecidableEq, Repr

/-- `http::StatusCode` -/
structure StatusCode where
  code : Nat
  valid : 100 ≤ code ∧ code < 1000

/-- `StatusCode::SWITCHING_PROTOCOLS` -/
def StatusCode.switchingProtocols : StatusCode := ⟨101, by decide⟩

/-- An `http::Uri`, as far as it is asked for. -/
structure RequestUri extends Client.RequestUri where
  authority : Option Bytes
  pathAndQuery : Option Bytes
deriving DecidableEq, Repr

/-- The parts of a request, as `httparse` finds them. -/
structure RawRequest where
  method : Bytes
  path : Bytes
  /-- The digit behind `HTTP/1.` -/
  version : Nat
  headers : List Head.Field
deriving DecidableEq

/-- The parts of a response, as `httparse` finds them. -/
structure RawResponse where
  version : Nat
  code : Nat
  headers : List Head.Field
deriving DecidableEq

/-- `httparse::Error` -/
inductive HttparseError where
  | tooManyHeaders
  | other
deriving DecidableEq

/-- The crates that a handshake rests on. -/
structure Crates where
  /-- `http::HeaderName` -/
  HeaderName : Type
  /-- `http::HeaderValue` -/
  HeaderValue : Type
  /-- `http::HeaderMap` -/
  HeaderMap : Type
  /-- `HeaderName::from_bytes`, and `from_str` -/
  nameFromBytes : Bytes → Option HeaderName
  /-- `HeaderName::as_str` -/
  asStr : HeaderName → Bytes
  /-- `HeaderValue::from_bytes` -/
  valueFromBytes : Bytes → Option HeaderValue
  /-- `HeaderValue::from_str` -/
  valueFromStr : Bytes → Option HeaderValue
  /-- `HeaderValue::as_bytes` -/
  asBytes : HeaderValue → Bytes
  /-- `HeaderValue::to_str` -/
  toStr : HeaderValue → Option Bytes
  /-- `HeaderMap::new` -/
  newMap : HeaderMap
  /-- `HeaderMap::get`, of a name in whatever case -/
  get : HeaderMap → Bytes → Option HeaderValue
  /-- `HeaderMap::get_all` -/
  getAll : HeaderMap → Bytes → List HeaderValue
  /-- `HeaderMap::append` -/
  append : HeaderMap → HeaderName → HeaderValue → HeaderMap
  /-- `HeaderMap::remove`: what is returned, and what is left. -/
  remove : HeaderMap → Bytes → Option HeaderValue × HeaderMap
  /-- `HeaderMap::iter` -/
  iter : HeaderMap → List (HeaderName × HeaderValue)
  /-- `StatusCode::from_u16` -/
  fromU16 : Nat → Option StatusCode
  /-- `StatusCode::is_success` -/
  isSuccess : StatusCode → Bool
  /-- A `StatusCode`, as it is displayed. -/
  display : StatusCode → Bytes
  /-- A `Version`, as it is printed for debugging. -/
  debug : Version → Bytes
  /-- `Uri::from_str` -/
  parseUri : Bytes → Option RequestUri
  /-- `httparse::Request::parse`, for so many headers at most. -/
  parseRequest : Nat → Bytes → Except HttparseError (Option (Nat × RawRequest))
  /-- `httparse::Response::parse` -/
  parseResponse : Nat → Bytes → Except HttparseError (Option (Nat × RawResponse))
  sha1 : Bytes → Bytes
  /-- `data_encoding::BASE64` -/
  base64 : Bytes → Bytes

/-! ## Requests and responses -/

/-- `http::Request` -/
structure HttpRequest (crates : Crates) (T : Type) where
  method : Method
  uri : RequestUri
  version : Version
  headers : crates.HeaderMap
  body : T

/-- `http::Response` -/
structure HttpResponse (crates : Crates) (T : Type) where
  status : StatusCode
  version : Version
  headers : crates.HeaderMap
  body : T

abbrev Request (crates : Crates) := HttpRequest crates Unit

/-- The response of a server. -/
abbrev Response (crates : Crates) := HttpResponse crates Unit

/-- The response of a server that refuses. -/
abbrev ErrorResponse (crates : Crates) := HttpResponse crates (Option Bytes)

/-- A response as a client has it. -/
abbrev ClientResponse (crates : Crates) := HttpResponse crates (Option Bytes)

/-! ## Errors -/

inductive UrlError where
  | unsupportedUrlScheme
  | noHostName
  | emptyHostName
  | noPathOrQuery
deriving DecidableEq, Repr

inductive ProtocolError (crates : Crates) where
  | wrongHttpMethod
  | wrongHttpVersion
  | missingConnectionUpgradeHeader
  | missingUpgradeWebSocketHeader
  | missingSecWebSocketVersionHeader
  | missingSecWebSocketKey
  | secWebSocketAcceptKeyMismatch
  | invalidHeader (name : crates.HeaderName)
  | httparse

/-- The errors of an opening handshake. -/
inductive Fault (crates : Crates) where
  | protocol (e : ProtocolError crates)
  | url (e : UrlError)
  /-- `CapacityError::TooManyHeaders` -/
  | tooManyHeaders
  | utf8
  | httpFormat
  | http (response : ClientResponse crates)
  /-- What a handshake has in common with a connection. -/
  | failure (e : Failure)

variable {crates : Crates}

/-- From `httparse::Error`. -/
def HttparseError.toFault : HttparseError → Fault crates
  | tooManyHeaders => .tooManyHeaders
  | other => .protocol .httparse

/-- `InvalidHeader` of a name that is unwrapped. -/
def invalidHeader (text : Bytes) : Fault crates :=
  match crates.nameFromBytes text with
  | some name => .protocol (.invalidHeader name)
  | none => .failure (.connection (.halt (.panic .unwrap)))

/-! ## From what is parsed -/

/-- Limit for the number of header lines. -/
def maxHeaders : Nat := 124

/-- One header is added to those that have been read. -/
def appendRaw (headers : crates.HeaderMap) (h : Head.Field) :
    Except (Fault crates) crates.HeaderMap :=
  match crates.nameFromBytes h.1, crates.valueFromBytes h.2 with
  | some name, some value => .ok (crates.append headers name value)
  | _, _ => .error .httpFormat

/-- `HeaderMap::from_httparse` -/
def headersFromHttparse (raw : List Head.Field) : Except (Fault crates) crates.HeaderMap :=
  raw.foldlM appendRaw crates.newMap

namespace HttpRequest

/-- `Request::from_httparse` -/
def fromHttparse (raw : RawRequest) : Except (Fault crates) (Request crates) := do
  if raw.method ≠ Utf8.encode "GET" then throw (.protocol .wrongHttpMethod)
  if raw.version < 1 then throw (.protocol .wrongHttpVersion)
  let headers ← headersFromHttparse raw.headers
  match crates.parseUri raw.path with
  | none => throw .httpFormat
  | some uri => return ⟨.get, uri, .http11, headers, ()⟩

/-- `Request::try_parse` -/
def tryParse (crates : Crates) (data : Bytes) :
    Except (Fault crates) (Option (Nat × Request crates)) :=
  match crates.parseRequest maxHeaders data with
  | .error e => .error e.toFault
  | .ok none => .ok none
  | .ok (some (size, raw)) => do
      let request ← fromHttparse raw
      return some (size, request)

end HttpRequest

namespace HttpResponse

/-- `Response::from_httparse` -/
def fromHttparse (raw : RawResponse) : Except (Fault crates) (ClientResponse crates) := do
  if raw.version < 1 then throw (.protocol .wrongHttpVersion)
  let headers ← headersFromHttparse raw.headers
  match crates.fromU16 raw.code with
  | none => throw .httpFormat
  | some status => return ⟨status, .http11, headers, none⟩

/-- `Response::try_parse` -/
def tryParse (crates : Crates) (data : Bytes) :
    Except (Fault crates) (Option (Nat × ClientResponse crates)) :=
  match crates.parseResponse maxHeaders data with
  | .error e => .error e.toFault
  | .ok none => .ok none
  | .ok (some (size, raw)) => do
      let response ← fromHttparse raw
      return some (size, response)

end HttpResponse

end Opening

end Ws

end MessageIo
