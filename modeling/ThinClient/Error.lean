import ThinClient.Protocol.Operation
import ThinClient.Protocol.Version
import ThinClient.Value.Error

/-!
# Errors of a client

Every failure a client reports, by cause, with the request it belongs to where there is one.

* `Error.message` gives the words.
* `Error.isFatal` says that the connection must not be used any more: the handshake, the byte
  stream or the reading of an answer failed. `Error.isConnectionError` leaves out the last.
-/

namespace ThinClient

/-- Why an address of a server cannot be read. -/
inductive AddressError where
  | schemeMissing
  | unknownScheme (scheme : String)
  | invalidPort
  | hostMissing
  | invalidVersion
  | invalidPageSize
  | invalidTimeout
  | unknownParameter (key : String)
  deriving DecidableEq, Repr

namespace AddressError

/-- The cause alone. -/
def reason : AddressError → String
  | schemeMissing => "scheme missing"
  | unknownScheme scheme => "unknown scheme " ++ Quoted.text scheme
  | invalidPort => "invalid port"
  | hostMissing => "host missing"
  | invalidVersion => "invalid version"
  | invalidPageSize => "invalid page_size"
  | invalidTimeout => "invalid timeout_ms"
  | unknownParameter key => "unknown parameter " ++ Quoted.text key

/-- The cause in words. -/
def message (e : AddressError) : String :=
  "failed to parse url: " ++ e.reason

end AddressError

/-- How a server refuses a handshake. -/
structure HandshakeError where
  requested : Version
  serverVersion : Version
  explanation : Option String
  deriving DecidableEq, Repr

/-- The refusal in words. -/
def HandshakeError.message (e : HandshakeError) : String :=
  "handshake rejected, requested version " ++ e.requested.text ++ " but server supports " ++
    e.serverVersion.text ++
    match e.explanation with
    | some text => ": " ++ text
    | none => ""

/-- How the byte stream under a connection fails. -/
inductive IoError where
  | unexpectedEof
  | connectionReset
  | connectionRefused
  | brokenPipe
  | writeZero
  | timedOut
  | networkUnreachable
  deriving DecidableEq, Repr

/-- The failure in words. -/
def IoError.message : IoError → String
  | unexpectedEof => "unexpected end of file"
  | connectionReset => "connection reset"
  | connectionRefused => "connection refused"
  | brokenPipe => "broken pipe"
  | writeZero => "write zero"
  | timedOut => "timed out"
  | networkUnreachable => "Network is unreachable (os error 101)"

/-- What is wrong with a frame. -/
inductive FrameDefect where
  | negativeLength
  | shortResponse
  /-- A flaw that a caller of the library describes in words of its own. -/
  | other (reason : String)
  deriving DecidableEq, Repr

/-- The flaw in words. -/
def FrameDefect.message : FrameDefect → String
  | negativeLength => "negative frame length"
  | shortResponse => "response shorter than header"
  | other reason => reason

/-- How the exchange of frames fails. No connection survives any of these. -/
inductive TransportError where
  | io (cause : IoError)
  /-- The answer is for another request. -/
  | correlationMismatch (expected found : Int64)
  | malformedFrame (defect : FrameDefect)
  /-- The answer did not come in time. -/
  | timedOut
  /-- The connection failed before. -/
  | broken
  /-- The request before was given up while its answer was outstanding. -/
  | interrupted
  deriving DecidableEq, Repr

/-- The failure in words. -/
def TransportError.message : TransportError → String
  | io cause => cause.message
  | correlationMismatch expected found =>
    "correlation id mismatch, expected " ++ toString expected.toInt ++ " found " ++
      toString found.toInt
  | malformedFrame defect => "malformed frame: " ++ defect.message
  | timedOut => "request timed out"
  | broken => "connection is broken by previous failure"
  | interrupted => "previous request was cancelled mid flight"

/-- A request as messages name it: its operation and its correlation id. -/
structure RequestRef where
  op : Operation
  id : Int64
  deriving DecidableEq, Repr

/-- The request in words. -/
def RequestRef.text (r : RequestRef) : String :=
  r.op.name ++ " (id " ++ toString r.id.toInt ++ ")"

/-- A status other than success, with which a server answers a request. -/
structure ApplicationError where
  request : RequestRef
  status : Int32
  explanation : String
  deriving DecidableEq, Repr

/-- The status in words. -/
def ApplicationError.message (e : ApplicationError) : String :=
  e.request.text ++ " failed with status " ++ toString e.status.toInt ++ ": " ++ e.explanation

/-- The causes of a failure. -/
inductive ErrorKind where
  | config (cause : AddressError)
  | handshake (cause : HandshakeError)
  | transport (cause : TransportError)
  | application (cause : ApplicationError)
  | decode (cause : DecodeError)
  | encode (cause : EncodeError)
  | rowNotFound
  deriving DecidableEq, Repr

namespace ErrorKind

/-- The cause in words. -/
def message : ErrorKind → String
  | config cause => cause.message
  | handshake cause => cause.message
  | transport cause => cause.message
  | application cause => cause.message
  | decode cause => cause.message
  | encode cause => cause.message
  | rowNotFound => "row not found"

/-- Whether the connection must not be used any more. -/
def isFatal : ErrorKind → Bool
  | handshake _ | transport _ | decode _ => true
  | _ => false

/-- Whether the handshake or the exchange of frames failed. -/
def isConnectionError : ErrorKind → Bool
  | handshake _ | transport _ => true
  | _ => false

end ErrorKind

/-- A failure, with the request it belongs to where there is one. -/
structure Error where
  kind : ErrorKind
  request : Option RequestRef := none
  deriving DecidableEq, Repr

namespace Error

/-- The failure with the request it belongs to, unless that is known already. -/
def withRequest (e : Error) (request : RequestRef) : Error :=
  { e with request := e.request <|> some request }

/-- The request in words, nothing where there is none. -/
def context (e : Error) : String :=
  match e.request with
  | some r => r.text
  | none => ""

/-- The failure in words. -/
def message (e : Error) : String :=
  match e.request with
  | some r => r.text ++ ": " ++ e.kind.message
  | none => e.kind.message

/-- Whether the connection must not be used any more. -/
def isFatal (e : Error) : Bool :=
  e.kind.isFatal

/-- Whether the handshake or the exchange of frames failed. -/
def isConnectionError (e : Error) : Bool :=
  e.kind.isConnectionError

end Error

instance : Coe AddressError Error := ⟨fun e => { kind := .config e }⟩
instance : Coe HandshakeError Error := ⟨fun e => { kind := .handshake e }⟩
instance : Coe TransportError Error := ⟨fun e => { kind := .transport e }⟩
instance : Coe ApplicationError Error := ⟨fun e => { kind := .application e }⟩
instance : Coe DecodeError Error := ⟨fun e => { kind := .decode e }⟩
instance : Coe EncodeError Error := ⟨fun e => { kind := .encode e }⟩

end ThinClient
