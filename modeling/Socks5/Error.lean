import Socks5.ReplyCode
import Socks5.Text.Quoted

/-!
# `Socks5.Error`: why a negotiation or a service ends

`ProtocolError` is what the codec and the steps of a negotiation report.
`ServiceError` adds what only a running service meets: failures of
sockets, bad configurations and missed deadlines. Each error has one
text, and `ProtocolError.reply?` says which failure a client is told.
-/

set_option autoImplicit false

namespace Socks5

open Net

/-- Why the exchange of messages fails. -/
inductive ProtocolError where
  /-- A text that does not split into host and port. -/
  | malformedAddress (text : String)
  /-- A port that is no decimal number up to 65535. -/
  | invalidPort (text : String)
  /-- A name too long for its length byte. -/
  | domainTooLong (length : Nat)
  /-- An address of none of the three types. -/
  | unsupportedAddressType (byte : UInt8)
  /-- The stream ended or failed inside a message. -/
  | truncated (cause : IoError)
  /-- A message of another protocol version. -/
  | unsupportedVersion (byte : UInt8)
  /-- No offered method is acceptable, or the selected one is not usable. -/
  | noAcceptableMethod
  /-- A command that is unknown or not served. -/
  | commandNotSupported (byte : UInt8)
  /-- The credentials are refused or cannot be sent. -/
  | authFailed
  /-- The server answered with a failure. -/
  | rejected (code : ReplyCode)
  /-- Writing failed. -/
  | io (cause : IoError)
  deriving Repr, DecidableEq, Inhabited

namespace ProtocolError

/-- The text of an error. -/
def message : ProtocolError → String
  | .malformedAddress text => s!"Malformed address: {text}"
  | .invalidPort text => s!"Invalid port: {Text.quoted text}"
  | .domainTooLong length => s!"Domain name length {length} is over 255"
  | .unsupportedAddressType b => s!"Address type not supported: {b.toNat}"
  | .truncated cause => s!"Truncated message: {cause.message}"
  | .unsupportedVersion b => s!"Unsupported SOCKS version: {b.toNat}"
  | .noAcceptableMethod => "No acceptable authentication method"
  | .commandNotSupported b => s!"Command not supported: {b.toNat}"
  | .authFailed => "Authentication failed"
  | .rejected code => s!"Request rejected: {code.text}"
  | .io cause => s!"IO error: {cause.message}"

/-- The failure that a client is told. `none` when the error precedes the
request or broke the stream, so that no reply is due. -/
def reply? : ProtocolError → Option ReplyCode
  | .unsupportedAddressType _ => some .addressTypeNotSupported
  | .commandNotSupported _ => some .commandNotSupported
  | .rejected code => some code
  | .malformedAddress _ | .invalidPort _ | .domainTooLong _ => some .generalFailure
  | .truncated _ | .unsupportedVersion _ | .noAcceptableMethod | .authFailed | .io _ => none

/-- The error of the stream below, if there is one. -/
def cause? : ProtocolError → Option IoError
  | .truncated cause | .io cause => some cause
  | _ => none

/-- The errors that no client is told of: those of the stream, which leave nobody
to tell or nothing to answer, and those that come before a request or make one of
another protocol of it. -/
theorem reply?_eq_none_iff {e : ProtocolError} :
    e.reply? = none ↔ e.cause?.isSome ∨ (∃ b, e = .unsupportedVersion b) ∨
      e = .noAcceptableMethod ∨ e = .authFailed := by
  cases e <;> simp [reply?, cause?]

end ProtocolError

/-- Why a service ends. -/
inductive ServiceError where
  /-- A socket or a connection failed. -/
  | io (cause : IoError)
  /-- The configuration is not usable. -/
  | config (reason : String)
  /-- The exchange of messages failed. -/
  | protocol (cause : ProtocolError)
  /-- A deadline passed. -/
  | timeout (reason : String)
  deriving Repr, DecidableEq, Inhabited

namespace ServiceError

/-- The text of an error. -/
def message : ServiceError → String
  | .io cause => s!"IO error: {cause.message}"
  | .config reason => s!"Configuration error: {reason}"
  | .protocol cause => s!"SOCKS5 error: {cause.message}"
  | .timeout reason => s!"Timeout: {reason}"

/-- The text of the error below, if there is one. -/
def cause? : ServiceError → Option String
  | .io cause => some cause.message
  | .protocol cause => some cause.message
  | .config _ | .timeout _ => none

end ServiceError

end Socks5
